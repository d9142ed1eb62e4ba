import Forecast.Marg.Staging

/-!
# Staging and the date window

A row is staged when its timestamp lies in the window; the projections ask whether the date that
is stored for it does. The two differ within the days on which the window begins and ends.
-/

namespace Forecast

/-- The timestamp does not come after the end on the day of the end, nor before the start on the
day of the start. -/
def DateWindow.Parts (window : DateWindow) (date : Millis) : Prop :=
  (∀ stop ∈ window.stop, dateColumn date = dateColumn stop → date ≤ stop) ∧
    ∀ start ∈ window.start, dateColumn date = dateColumn start → start ≤ date

variable {a b : ℤ}

theorem dateColumn_le (h : a ≤ b) : dateColumn a ≤ dateColumn b := by
  change (a / 86400000 * 86400000 : ℤ) ≤ b / 86400000 * 86400000
  omega

/-- Before a bound means on an earlier day, or on its day and before it. -/
theorem le_iff_of_dateColumn_le (h : dateColumn a ≤ dateColumn b) :
    a ≤ b ↔ (dateColumn a = dateColumn b → a ≤ b) := by
  change (a / 86400000 * 86400000 : ℤ) ≤ b / 86400000 * 86400000 at h
  change a ≤ b ↔ ((a / 86400000 * 86400000 : ℤ) = b / 86400000 * 86400000 → a ≤ b)
  omega

theorem isWithinDateWindow_iff {date : Millis} {window : DateWindow} :
    isWithinDateWindow date (some window) = true ↔
      (∀ start ∈ window.start, start ≤ date) ∧ ∀ stop ∈ window.stop, date ≤ stop := by
  simp [isWithinDateWindow, Option.all_eq_true]

theorem isInDateWhere_iff {date : Millis} {window : DateWindow} :
    isInDateWhere (some window) date = true ↔
      (∀ start ∈ window.start, dateColumn start ≤ date) ∧
        ∀ stop ∈ window.stop, date ≤ dateColumn stop := by
  simp [isInDateWhere, buildDateWhere, Option.all_eq_true]

/-- A window that is built does not end before it begins. -/
theorem le_of_buildDateWindow {platform : Platform} {fromDate endDate : Option String}
    {window : DateWindow} (h : buildDateWindow platform fromDate endDate = .ok (some window))
    (ha : a ∈ window.start) (hb : b ∈ window.stop) : a ≤ b := by
  unfold buildDateWindow at h
  dsimp only at h
  split_ifs at h
  generalize (given fromDate).bind (fun text => parseMargDate platform (.text text)) = start at h
  generalize (given endDate).bind (fun text => parseMargDate platform (.text text)) = stop at h
  cases start with
  | none =>
    cases stop with
    | none => cases h
    | some stop =>
      obtain rfl : DateWindow.mk none (some stop) = window := Option.some.inj (Except.ok.inj h)
      cases ha
  | some start =>
    cases stop with
    | none =>
      obtain rfl : DateWindow.mk (some start) none = window := Option.some.inj (Except.ok.inj h)
      cases hb
    | some stop =>
      dsimp only at h
      split_ifs at h with hlt
      obtain rfl : DateWindow.mk (some start) (some stop) = window :=
        Option.some.inj (Except.ok.inj h)
      obtain rfl : start = a := Option.some.inj ha
      obtain rfl : stop = b := Option.some.inj hb
      exact not_lt.1 hlt

/-- Staging and the stored date agree about a row unless the window parts its day. -/
theorem isStaged_iff_isInDateWhere {platform : Platform} {fromDate endDate : Option String}
    {dateWindow : Option DateWindow} {row : MargRow} {date : Millis}
    (hwindow : buildDateWindow platform fromDate endDate = .ok dateWindow)
    (hdate : parseMargDate platform (row.get "Date") = some date) :
    ((dateWithin platform dateWindow row).isSome = true ↔
        isInDateWhere dateWindow (dateColumn date) = true) ↔
      ∀ window ∈ dateWindow, window.Parts date := by
  have hstaged :
      (dateWithin platform dateWindow row).isSome = isWithinDateWindow date dateWindow := by
    rw [dateWithin, hdate, Option.filter_some]
    cases isWithinDateWindow date dateWindow <;> rfl
  rw [hstaged]
  cases dateWindow with
  | none => simp [isWithinDateWindow, isInDateWhere, buildDateWhere]
  | some window =>
    have horder : ∀ a ∈ window.start, ∀ b ∈ window.stop, dateColumn a ≤ dateColumn b :=
      fun a ha b hb => dateColumn_le (le_of_buildDateWindow hwindow ha hb)
    rw [isWithinDateWindow_iff, isInDateWhere_iff]
    simp only [Option.mem_some_iff, forall_eq', DateWindow.Parts]
    constructor
    · intro hagree
      constructor
      · intro stop hstop hsame
        refine (hagree.2 ⟨fun start hstart => ?_, fun other hother => ?_⟩).2 stop hstop
        · exact (horder start hstart stop hstop).trans hsame.ge
        · obtain rfl : stop = other := Option.some.inj (hstop.symm.trans hother)
          exact hsame.le
      · intro start hstart hsame
        refine (hagree.2 ⟨fun other hother => ?_, fun stop hstop => ?_⟩).1 start hstart
        · obtain rfl : start = other := Option.some.inj (hstart.symm.trans hother)
          exact hsame.ge
        · exact hsame.le.trans (horder start hstart stop hstop)
    · rintro ⟨hstop, hstart⟩
      constructor
      · rintro ⟨hfrom, hto⟩
        exact ⟨fun start hs => dateColumn_le (hfrom start hs),
          fun stop hs => dateColumn_le (hto stop hs)⟩
      · rintro ⟨hfrom, hto⟩
        exact ⟨fun start hs => (le_iff_of_dateColumn_le (hfrom start hs)).2 fun hsame =>
            hstart start hs hsame.symm,
          fun stop hs => (le_iff_of_dateColumn_le (hto stop hs)).2 (hstop stop hs)⟩

/-- A row with a timestamp alone, and a platform that reads no other date. -/
def timedRow (timestamp : String) : MargRow := ⟨[("Date", .text timestamp)]⟩

def plainPlatform : Platform := ⟨id, fun _ => none⟩

def march : DateWindow := ⟨some 1709251200000, some 1711843200000⟩

theorem buildDateWindow_march :
    buildDateWindow plainPlatform (some "2024-03-01") (some "2024-03-31") = .ok (some march) := by
  decide +kernel

theorem isStaged_iff_isInDateWhere_march :
    ((dateWithin plainPlatform (some march) (timedRow "2024-03-15 14:30")).isSome = true ↔
        isInDateWhere (some march) (dateColumn 1710513000000) = true) ↔
      ∀ window ∈ some march, window.Parts 1710513000000 := by
  have hdate : parseMargDate plainPlatform ((timedRow "2024-03-15 14:30").get "Date") =
      some 1710513000000 := by
    decide +kernel
  exact isStaged_iff_isInDateWhere buildDateWindow_march hdate

/-- A row of the afternoon of the last day is not staged, though its date lies in the window. -/
theorem not_isStaged_iff_isInDateWhere :
    ¬∀ (platform : Platform) (fromDate endDate : Option String) (dateWindow : Option DateWindow)
      (row : MargRow) (date : Millis),
      buildDateWindow platform fromDate endDate = .ok dateWindow →
      parseMargDate platform (row.get "Date") = some date →
      ((dateWithin platform dateWindow row).isSome = true ↔
        isInDateWhere dateWindow (dateColumn date) = true) := by
  intro h
  have hagree := h plainPlatform (some "2024-03-01") (some "2024-03-31") (some march)
    (timedRow "2024-03-31 14:30") 1711895400000 buildDateWindow_march (by decide +kernel)
  revert hagree
  decide +kernel

end Forecast
