import Forecast.Lib.Binary64
import Forecast.Reporting.DateRanges
import Mathlib.Data.List.ReduceOption

/-!
# Planning assumptions on a forecast row

The factors and the addend of the assumptions that match a row are folded one after the other, in
binary64 numbers. A discontinuation sets both factors to zero where every other assumption
multiplies, and growth at a negative base has no number for a fraction of a year. So the order of
the list is without effect as long as no growth of that kind meets a discontinuation and nothing
is rounded on the way, and the discontinued amount is what the absolute assumptions add.
-/

namespace Forecast.Forecasting

open Reporting (fullYear monthIndex)

abbrev Millis := ℤ

/-- A binary64 number. None is the one that is not a number. -/
abbrev JsNumber := Option ℚ

structure ForecastPlatform where
  /-- The day of an instant in the time zone of the server. -/
  localDay : Millis → ℤ
  /-- `Math.pow(base, months / 12)` where it is a number. -/
  power : ℚ → ℕ → ℚ

inductive ScenarioType where
  | base
  | optimistic
  | pessimistic
  | stretch
  | conservative
  | custom
deriving DecidableEq

structure ScenarioAdjustment where
  multiplier : ℚ
  confidenceWidth : ℚ

/-- The numbers that are written as decimals. -/
def ScenarioAdjustment.ofDecimals (multiplier confidenceWidth : ℚ) : ScenarioAdjustment :=
  ⟨Binary64.round multiplier, Binary64.round confidenceWidth⟩

def scenarioAdjustments : ScenarioType → ScenarioAdjustment
  | .base => ⟨1, 1⟩
  | .optimistic => .ofDecimals (115 / 100) (12 / 10)
  | .pessimistic => .ofDecimals (85 / 100) (12 / 10)
  | .stretch => .ofDecimals (125 / 100) (14 / 10)
  | .conservative => .ofDecimals (92 / 100) (8 / 10)
  | .custom => ⟨1, 1⟩

inductive AssumptionType where
  | growthRate
  | priceChange
  | volumeChange
  | costInflation
  | seasonality
  | promotion
  | newProduct
  | discontinuation
  | custom
deriving DecidableEq

inductive ValueType where
  | percentage
  | absolute
  | multiplier
  | index
deriving DecidableEq

structure Dimensions where
  productId : Option String := none
  locationId : Option String := none
  customerId : Option String := none
  accountId : Option String := none
deriving DecidableEq

structure Assumption where
  assumptionType : AssumptionType
  /-- None when `Number(value)` is not finite. -/
  value : Option ℚ
  valueType : ValueType := .percentage
  dimensions : Dimensions := {}
  startDate : Option Millis := none
  endDate : Option Millis := none
deriving DecidableEq

/-- A row of an engine. -/
structure RawForecast where
  periodDate : Millis
  dimensions : Dimensions
  amount : ℚ
  quantity : Option ℚ
  confidenceLower : Option ℚ := none
  confidenceUpper : Option ℚ := none

structure ExternalSignal where
  factor : ℚ
  startDate : Option Millis := none
  endDate : Option Millis := none
  factor_ge : 1 / 100 ≤ factor

structure AdjustedForecast where
  row : RawForecast
  amount : JsNumber
  quantity : Option JsNumber
  confidenceLower : JsNumber
  confidenceUpper : JsNumber

@[ext]
structure AssumptionEffect where
  amountFactor : JsNumber := some 1
  amountAddend : ℚ := 0
  quantityFactor : JsNumber := some 1

/-! ### The effect of a list -/

/-- Both numbers, or neither. -/
def times (x y : JsNumber) : JsNumber := x.bind fun p => y.map (Binary64.mul p)

/-- An absent or empty id applies to all. -/
def matchesId (wanted actual : Option String) : Bool :=
  wanted = none || wanted = some "" || wanted = actual

def Assumption.dimensionMatches (a : Assumption) (row : Dimensions) : Bool :=
  matchesId a.dimensions.productId row.productId &&
    matchesId a.dimensions.locationId row.locationId &&
    matchesId a.dimensions.customerId row.customerId &&
    matchesId a.dimensions.accountId row.accountId

def inWindow (startDate endDate : Option Millis) (period : Millis) : Bool :=
  startDate.all (· ≤ period) && endDate.all (period ≤ ·)

def factorOf (raw : ℚ) : ValueType → JsNumber
  | .percentage => some (Binary64.add 1 (Binary64.div raw 100))
  | .multiplier => some raw
  | .index => some (if raw = 0 then 1 else Binary64.div raw 100)
  | .absolute => none

/-- The rate is the percentage, or what the value is above one. -/
def annualBase (raw : ℚ) (valueType : ValueType) : ℚ :=
  Binary64.add 1 (if valueType = .percentage then Binary64.div raw 100 else Binary64.sub raw 1)

variable (platform : ForecastPlatform)

def monthsElapsed (forecastStart period : Millis) : ℕ :=
  ((fullYear (platform.localDay period) - fullYear (platform.localDay forecastStart)) * 12 +
    (monthIndex (platform.localDay period) -
      monthIndex (platform.localDay forecastStart))).toNat

/-- `Math.pow(base, months / 12)` -/
def compounded (base : ℚ) (months : ℕ) : JsNumber :=
  if months % 12 ≠ 0 ∧ base < 0 then none else some (platform.power base months)

/-- `Number(value)` -/
def Assumption.raw (a : Assumption) : ℚ := Binary64.round (a.value.getD 0)

namespace AssumptionEffect

variable (months : ℕ)

def apply (effect : AssumptionEffect) (a : Assumption) : AssumptionEffect :=
  let raw := a.raw
  match a.assumptionType with
  | .growthRate =>
    let rate := compounded platform (annualBase raw a.valueType) months
    { effect with
      amountFactor := times effect.amountFactor rate
      quantityFactor := times effect.quantityFactor rate }
  | .priceChange =>
    match factorOf raw a.valueType with
    | none => { effect with amountAddend := Binary64.add effect.amountAddend raw }
    | some factor => { effect with amountFactor := times effect.amountFactor factor }
  | .volumeChange | .promotion | .newProduct =>
    match factorOf raw a.valueType with
    | none => { effect with amountAddend := Binary64.add effect.amountAddend raw }
    | some factor =>
      { effect with
        amountFactor := times effect.amountFactor factor
        quantityFactor := times effect.quantityFactor factor }
  | .discontinuation => { effect with amountFactor := some 0, quantityFactor := some 0 }
  | .costInflation | .seasonality | .custom => effect

end AssumptionEffect

def Assumption.applies (row : RawForecast) (a : Assumption) : Bool :=
  a.dimensionMatches row.dimensions && inWindow a.startDate a.endDate row.periodDate &&
    a.value.isSome

def AssumptionEffect.next (months : ℕ) (row : RawForecast) (effect : AssumptionEffect)
    (a : Assumption) : AssumptionEffect :=
  if a.applies row then effect.apply platform months a else effect

def computeAssumptionEffect (row : RawForecast) (assumptions : List Assumption)
    (forecastStart : Millis) : AssumptionEffect :=
  assumptions.foldl
    (AssumptionEffect.next platform (monthsElapsed platform forecastStart row.periodDate) row) {}

/-- The factor of the signals whose dates hold the row's. -/
def applySignals (signals : List ExternalSignal) (period : Millis) (x : JsNumber) : JsNumber :=
  signals.foldl
    (fun x signal =>
      if inWindow signal.startDate signal.endDate period then times x signal.factor else x) x

/-- The adjustment of one row in `generateForecasts`. -/
def adjust (scenario : ScenarioType) (signals : List ExternalSignal) (forecastStart : Millis)
    (assumptions : List Assumption) (row : RawForecast) : AdjustedForecast :=
  let adjustment := scenarioAdjustments scenario
  let effect := computeAssumptionEffect platform row assumptions forecastStart
  let number (x : ℚ) : JsNumber := some (Binary64.round x)
  let amount := applySignals signals row.periodDate
    ((times (times (number row.amount) (some adjustment.multiplier)) effect.amountFactor).map
      (Binary64.add · effect.amountAddend))
  let baseLower := row.confidenceLower.elim (times amount (number (9 / 10))) some
  let baseUpper := row.confidenceUpper.elim (times amount (number (11 / 10))) some
  let width := baseUpper.bind fun upper => baseLower.map fun lower =>
    Binary64.mul (Binary64.sub upper lower) adjustment.confidenceWidth
  { row := row
    amount := amount
    quantity := row.quantity.map fun quantity =>
      applySignals signals row.periodDate
        (times (times (number quantity) (some adjustment.multiplier)) effect.quantityFactor)
    confidenceLower := amount.bind fun x => width.map fun w => Binary64.sub x (Binary64.div w 2)
    confidenceUpper := amount.bind fun x => width.map fun w => Binary64.add x (Binary64.div w 2) }

/-! ### The law -/

section Law

variable (scenario : ScenarioType) (signals : List ExternalSignal) (forecastStart : Millis)
  (row : RawForecast) (assumptions : List Assumption)

def adjusted (assumptions : List Assumption) : JsNumber × Option JsNumber :=
  let result := adjust platform scenario signals forecastStart assumptions row
  (result.amount, result.quantity)

structure AdjustmentLaw : Prop where
  unordered : ∀ others, others.Perm assumptions →
    adjusted platform scenario signals forecastStart row others =
      adjusted platform scenario signals forecastStart row assumptions
  unmatched : ∀ others,
    others.filter (Assumption.applies row) = assumptions.filter (Assumption.applies row) →
      adjusted platform scenario signals forecastStart row others =
        adjusted platform scenario signals forecastStart row assumptions
  discontinued : (∃ a ∈ assumptions, a.applies row ∧ a.assumptionType = .discontinuation) →
    adjusted platform scenario signals forecastStart row assumptions =
      (some 0, row.quantity.map fun _ => some 0)

end Law

/-! ### Rates -/

namespace Assumption

variable (months : ℕ) (a : Assumption)

/-- Growth at a negative base over a fraction of a year. -/
def Imaginary : Prop :=
  a.assumptionType = .growthRate ∧ months % 12 ≠ 0 ∧ annualBase a.raw a.valueType < 0

instance : Decidable (a.Imaginary months) := inferInstanceAs (Decidable (_ ∧ _))

/-- What an absolute value adds to the amount. -/
def addend? : Option ℚ :=
  if a.valueType = .absolute ∧
      a.assumptionType ∈ [.priceChange, .volumeChange, .promotion, .newProduct] then
    some a.raw
  else none

/-- What the amount is multiplied by. -/
def amountRate? : Option JsNumber :=
  match a.assumptionType with
  | .growthRate => some (compounded platform (annualBase a.raw a.valueType) months)
  | .priceChange | .volumeChange | .promotion | .newProduct =>
    (factorOf a.raw a.valueType).map some
  | _ => none

def quantityRate? : Option JsNumber :=
  if a.assumptionType = .priceChange then none else a.amountRate? platform months

end Assumption

section Rates

variable {platform} {months : ℕ} {a : Assumption}

theorem compounded_eq_none_iff {base : ℚ} :
    compounded platform base months = none ↔ months % 12 ≠ 0 ∧ base < 0 := by
  unfold compounded
  split_ifs with h <;> simp [h]

theorem amountRate?_eq_some_none_iff :
    a.amountRate? platform months = some none ↔ a.Imaginary months := by
  unfold Assumption.amountRate? Assumption.Imaginary
  cases a.assumptionType <;> simp [compounded_eq_none_iff]

theorem quantityRate?_eq_some_none_iff :
    a.quantityRate? platform months = some none ↔ a.Imaginary months := by
  unfold Assumption.quantityRate?
  split_ifs with hprice
  · simp [Assumption.Imaginary, hprice]
  · exact amountRate?_eq_some_none_iff

theorem factorOf_eq_none_iff {raw : ℚ} {valueType : ValueType} :
    factorOf raw valueType = none ↔ valueType = .absolute := by
  cases valueType <;> simp [factorOf]

theorem apply_eq (h : a.assumptionType ≠ .discontinuation) (effect : AssumptionEffect) :
    effect.apply platform months a =
      { amountFactor := (a.amountRate? platform months).elim effect.amountFactor
          (times effect.amountFactor)
        amountAddend := a.addend?.elim effect.amountAddend (Binary64.add effect.amountAddend)
        quantityFactor := (a.quantityRate? platform months).elim effect.quantityFactor
          (times effect.quantityFactor) } := by
  unfold AssumptionEffect.apply Assumption.amountRate? Assumption.addend? Assumption.quantityRate?
    Assumption.amountRate?
  cases hfactor : factorOf a.raw a.valueType with
  | none =>
    have habsolute := factorOf_eq_none_iff.1 hfactor
    cases htype : a.assumptionType <;> simp_all
  | some factor =>
    have hne : a.valueType ≠ .absolute := fun heq => by
      rw [factorOf_eq_none_iff.2 heq] at hfactor
      cases hfactor
    cases htype : a.assumptionType <;> simp_all

/-- A loop over rates. -/
theorem foldl_times (p : ℚ) (rates : List ℚ) :
    (rates.map some).foldl times (some p) = some (rates.foldl Binary64.mul p) := by
  induction rates generalizing p with
  | nil => rfl
  | cons rate rates ih => exact ih (Binary64.mul p rate)

theorem foldl_times_none {rates : List JsNumber} (h : none ∈ rates) (x : JsNumber) :
    rates.foldl times x = none := by
  have hstays : ∀ rates : List JsNumber, rates.foldl times none = none := fun rates => by
    induction rates with
    | nil => rfl
    | cons _ rates ih => exact ih
  obtain ⟨before, after, rfl⟩ := List.append_of_mem h
  have hnone : ∀ x : JsNumber, times x none = none := fun x => by cases x <;> rfl
  rw [List.foldl_append, List.foldl_cons, hnone, hstays]

theorem foldl_times_perm {rates rates' : List JsNumber} (hperm : rates'.Perm rates)
    (hexact : none ∉ rates → Binary64.FoldsExactly (· * ·) 1 rates.reduceOption) :
    rates'.foldl times (some 1) = rates.foldl times (some 1) := by
  by_cases hnone : none ∈ rates
  · rw [foldl_times_none hnone, foldl_times_none (hperm.mem_iff.2 hnone)]
  · have hsome : ∀ xs : List JsNumber, none ∉ xs → xs = xs.reduceOption.map some := by
      intro xs hxs
      induction xs with
      | nil => rfl
      | cons x xs ih =>
        rw [List.mem_cons, not_or] at hxs
        obtain ⟨p, rfl⟩ := Option.ne_none_iff_exists'.1 (Ne.symm hxs.1)
        rw [List.reduceOption_cons_of_some, List.map_cons, ← ih hxs.2]
    rw [hsome rates hnone, hsome rates' fun h => hnone (hperm.mem_iff.1 h), foldl_times,
      foldl_times]
    exact congrArg some ((hexact hnone).foldl_perm (hperm.filterMap id))

end Rates

/-! ### Lists -/

section Lists

variable {platform} {months : ℕ} {l : List Assumption}

theorem computeAssumptionEffect_eq (row : RawForecast) (forecastStart : Millis) :
    computeAssumptionEffect platform row l forecastStart =
      (l.filter (Assumption.applies row)).foldl
        (AssumptionEffect.apply platform (monthsElapsed platform forecastStart row.periodDate))
        {} :=
  List.foldl_filter.symm

theorem amountAddend_foldl (effect : AssumptionEffect) :
    (l.foldl (AssumptionEffect.apply platform months) effect).amountAddend =
      (l.filterMap Assumption.addend?).foldl Binary64.add effect.amountAddend := by
  induction l generalizing effect with
  | nil => rfl
  | cons a l ih =>
    rw [List.foldl_cons, ih]
    by_cases hdiscontinued : a.assumptionType = .discontinuation
    · simp [AssumptionEffect.apply, Assumption.addend?, hdiscontinued]
    · rw [apply_eq hdiscontinued]
      cases haddend : a.addend? <;> simp [haddend]

theorem factors_foldl (hnone : ∀ a ∈ l, a.assumptionType ≠ .discontinuation)
    (effect : AssumptionEffect) :
    (l.foldl (AssumptionEffect.apply platform months) effect).amountFactor =
        (l.filterMap (Assumption.amountRate? platform months)).foldl times effect.amountFactor ∧
      (l.foldl (AssumptionEffect.apply platform months) effect).quantityFactor =
        (l.filterMap (Assumption.quantityRate? platform months)).foldl times
          effect.quantityFactor := by
  induction l generalizing effect with
  | nil => exact ⟨rfl, rfl⟩
  | cons a l ih =>
    rw [List.forall_mem_cons] at hnone
    rw [List.foldl_cons, (ih hnone.2 _).1, (ih hnone.2 _).2, apply_eq hnone.1]
    constructor
    · cases hrate : a.amountRate? platform months <;> simp [hrate]
    · cases hrate : a.quantityRate? platform months <;> simp [hrate]

theorem elim_zero_times {rate : Option JsNumber} (h : rate ≠ some none) :
    rate.elim (some 0) (times (some 0)) = some 0 := by
  rcases rate with _ | _ | p
  · rfl
  · exact absurd rfl h
  · simp [times, Binary64.mul]

theorem factors_foldl_of_zero (hreal : ∀ a ∈ l, ¬a.Imaginary months) {effect : AssumptionEffect}
    (hamount : effect.amountFactor = some 0) (hquantity : effect.quantityFactor = some 0) :
    (l.foldl (AssumptionEffect.apply platform months) effect).amountFactor = some 0 ∧
      (l.foldl (AssumptionEffect.apply platform months) effect).quantityFactor = some 0 := by
  induction l generalizing effect with
  | nil => exact ⟨hamount, hquantity⟩
  | cons a l ih =>
    rw [List.forall_mem_cons] at hreal
    refine ih hreal.2 ?_ ?_
    · by_cases hdiscontinued : a.assumptionType = .discontinuation
      · simp [AssumptionEffect.apply, hdiscontinued]
      · rw [apply_eq hdiscontinued, hamount]
        exact elim_zero_times fun hnone => hreal.1 (amountRate?_eq_some_none_iff.1 hnone)
    · by_cases hdiscontinued : a.assumptionType = .discontinuation
      · simp [AssumptionEffect.apply, hdiscontinued]
      · rw [apply_eq hdiscontinued, hquantity]
        exact elim_zero_times fun hnone => hreal.1 (quantityRate?_eq_some_none_iff.1 hnone)

theorem factors_foldl_of_discontinued (hreal : ∀ a ∈ l, ¬a.Imaginary months)
    (hmem : ∃ a ∈ l, a.assumptionType = .discontinuation) (effect : AssumptionEffect) :
    (l.foldl (AssumptionEffect.apply platform months) effect).amountFactor = some 0 ∧
      (l.foldl (AssumptionEffect.apply platform months) effect).quantityFactor = some 0 := by
  obtain ⟨a, ha, htype⟩ := hmem
  obtain ⟨before, after, rfl⟩ := List.append_of_mem ha
  rw [List.foldl_append, List.foldl_cons]
  exact factors_foldl_of_zero (fun b hb => hreal b (by simp [hb]))
    (by simp [AssumptionEffect.apply, htype]) (by simp [AssumptionEffect.apply, htype])

/-- With the growth at the end there is no factor. -/
theorem amountFactor_foldl_of_imaginary {a : Assumption} (ha : a.Imaginary months)
    (effect : AssumptionEffect) :
    ((l ++ [a]).foldl (AssumptionEffect.apply platform months) effect).amountFactor = none := by
  have htype : a.assumptionType ≠ .discontinuation := by
    rw [ha.1]
    decide
  rw [List.foldl_append, List.foldl_cons, List.foldl_nil, apply_eq htype,
    amountRate?_eq_some_none_iff.2 ha]
  exact foldl_times_none (List.mem_singleton_self none) _

theorem applySignals_none (signals : List ExternalSignal) (period : Millis) :
    applySignals signals period none = none := by
  induction signals with
  | nil => rfl
  | cons signal signals ih =>
    rw [applySignals, List.foldl_cons]
    split_ifs <;> exact ih

theorem applySignals_zero (signals : List ExternalSignal) (period : Millis) :
    applySignals signals period (some 0) = some 0 := by
  induction signals with
  | nil => rfl
  | cons signal signals ih =>
    have hzero : times (some 0) (some signal.factor) = some 0 := by simp [times, Binary64.mul]
    rw [applySignals, List.foldl_cons, hzero, ite_self]
    exact ih

theorem applySignals_outside {signals : List ExternalSignal} {period : Millis}
    (h : ∀ signal ∈ signals, inWindow signal.startDate signal.endDate period = false)
    (x : JsNumber) : applySignals signals period x = x := by
  induction signals with
  | nil => rfl
  | cons signal signals ih =>
    rw [List.forall_mem_cons] at h
    rw [applySignals, List.foldl_cons, h.1]
    exact ih h.2

end Lists

/-! ### The law and its condition -/

section Result

variable (scenario : ScenarioType) (signals : List ExternalSignal) (forecastStart : Millis)
  (row : RawForecast)

def IsDiscontinued (assumptions : List Assumption) : Prop :=
  ∃ a ∈ assumptions, a.applies row ∧ a.assumptionType = .discontinuation

/-- Every growth that matches the row has a rate. -/
def GrowthsReal (assumptions : List Assumption) : Prop :=
  ∀ a ∈ assumptions, a.applies row →
    ¬a.Imaginary (monthsElapsed platform forecastStart row.periodDate)

/-- What the absolute assumptions that match the row add to its amount. -/
def addends (assumptions : List Assumption) : List ℚ :=
  (assumptions.filter (Assumption.applies row)).filterMap Assumption.addend?

def amountRates (assumptions : List Assumption) : List JsNumber :=
  (assumptions.filter (Assumption.applies row)).filterMap
    (Assumption.amountRate? platform (monthsElapsed platform forecastStart row.periodDate))

def quantityRates (assumptions : List Assumption) : List JsNumber :=
  (assumptions.filter (Assumption.applies row)).filterMap
    (Assumption.quantityRate? platform (monthsElapsed platform forecastStart row.periodDate))

/-- What the assumptions that match a row may be: nothing is rounded before the last addition and
the last multiplication, and where one of them discontinues the row, every growth has a rate and
the others add nothing together. -/
structure Adjustable (assumptions : List Assumption) : Prop where
  addends : Binary64.FoldsExactly (· + ·) 0 (addends row assumptions)
  cancels : IsDiscontinued row assumptions →
    GrowthsReal platform forecastStart row assumptions ∧
      (Forecasting.addends row assumptions).sum = 0
  rates : ¬IsDiscontinued row assumptions →
    GrowthsReal platform forecastStart row assumptions →
      Binary64.FoldsExactly (· * ·) 1
          (amountRates platform forecastStart row assumptions).reduceOption ∧
        Binary64.FoldsExactly (· * ·) 1
          (quantityRates platform forecastStart row assumptions).reduceOption

theorem adjusted_congr {l l' : List Assumption}
    (h : computeAssumptionEffect platform row l forecastStart =
      computeAssumptionEffect platform row l' forecastStart) :
    adjusted platform scenario signals forecastStart row l =
      adjusted platform scenario signals forecastStart row l' := by
  simp only [adjusted, adjust, h]

theorem amountAddend_eq (assumptions : List Assumption) :
    (computeAssumptionEffect platform row assumptions forecastStart).amountAddend =
      Binary64.sum (addends row assumptions) := by
  rw [computeAssumptionEffect_eq, amountAddend_foldl]
  rfl

theorem adjusted_discontinued {assumptions : List Assumption}
    (hdiscontinued : IsDiscontinued row assumptions)
    (hreal : GrowthsReal platform forecastStart row assumptions) :
    adjusted platform scenario signals forecastStart row assumptions =
      (applySignals signals row.periodDate
        (some (Binary64.round (Binary64.sum (addends row assumptions)))),
      row.quantity.map fun _ => some 0) := by
  have hfactors := @factors_foldl_of_discontinued platform
    (monthsElapsed platform forecastStart row.periodDate)
    (assumptions.filter (Assumption.applies row)) (fun a ha => by
      rw [List.mem_filter] at ha
      exact hreal a ha.1 ha.2) (by
      obtain ⟨a, ha, happlies, htype⟩ := hdiscontinued
      exact ⟨a, List.mem_filter.2 ⟨ha, happlies⟩, htype⟩) {}
  rw [← computeAssumptionEffect_eq] at hfactors
  simp only [adjusted, adjust, hfactors.1, hfactors.2, amountAddend_eq]
  cases row.quantity <;> simp [times, Binary64.mul, Binary64.add, applySignals_zero]

theorem adjusted_imaginary (before after : List Assumption) {a : Assumption}
    (happlies : a.applies row)
    (himaginary : a.Imaginary (monthsElapsed platform forecastStart row.periodDate)) :
    (adjusted platform scenario signals forecastStart row (before ++ after ++ [a])).1 = none := by
  have hfactor : (computeAssumptionEffect platform row (before ++ after ++ [a])
      forecastStart).amountFactor = none := by
    rw [computeAssumptionEffect_eq, List.filter_append,
      List.filter_cons_of_pos happlies, List.filter_nil]
    exact amountFactor_foldl_of_imaginary himaginary _
  simp only [adjusted, adjust, hfactor]
  simp [times, applySignals_none]

theorem sum_eq_zero_of_cancels {xs : List ℚ} (hexact : Binary64.FoldsExactly (· + ·) 0 xs)
    (hzero : xs.sum = 0) : Binary64.sum xs = 0 := by
  rcases eq_or_ne xs [] with rfl | hne
  · rfl
  · have hrounded := hexact.foldl_eq hne
    rw [← List.sum_eq_foldl, hzero, Binary64.round_zero] at hrounded
    exact hrounded

theorem adjusted_of_perm {assumptions : List Assumption}
    (h : Adjustable platform forecastStart row assumptions)
    (hdiscontinued : IsDiscontinued row assumptions) {others : List Assumption}
    (hperm : others.Perm assumptions) :
    adjusted platform scenario signals forecastStart row others =
      (some 0, row.quantity.map fun _ => some 0) := by
  obtain ⟨hreal, hcancels⟩ := h.cancels hdiscontinued
  have hothers : IsDiscontinued row others := by
    obtain ⟨a, ha, hprops⟩ := hdiscontinued
    exact ⟨a, hperm.mem_iff.2 ha, hprops⟩
  have haddends : (addends row others).Perm (addends row assumptions) :=
    (hperm.filter _).filterMap _
  rw [adjusted_discontinued platform scenario signals forecastStart row hothers
      fun a ha => hreal a (hperm.mem_iff.1 ha),
    sum_eq_zero_of_cancels (h.addends.perm haddends) (haddends.sum_eq.trans hcancels),
    Binary64.round_zero, applySignals_zero]

/-- The assumptions of a row that goes on have the same effect in every order. -/
theorem computeAssumptionEffect_perm {assumptions : List Assumption}
    (h : Adjustable platform forecastStart row assumptions)
    (hlive : ¬IsDiscontinued row assumptions) {others : List Assumption}
    (hperm : others.Perm assumptions) :
    computeAssumptionEffect platform row others forecastStart =
      computeAssumptionEffect platform row assumptions forecastStart := by
  have hfilter := hperm.filter (Assumption.applies row)
  have hnone : ∀ l : List Assumption, l.Perm assumptions →
      ∀ a ∈ l.filter (Assumption.applies row), a.assumptionType ≠ .discontinuation := by
    intro l hl a ha htype
    rw [List.mem_filter] at ha
    exact hlive ⟨a, hl.mem_iff.1 ha.1, ha.2, htype⟩
  have hrates : ∀ {rate? : Assumption → Option JsNumber}, (∀ a, a.Imaginary
      (monthsElapsed platform forecastStart row.periodDate) → rate? a = some none) →
      none ∉ (assumptions.filter (Assumption.applies row)).filterMap rate? →
      GrowthsReal platform forecastStart row assumptions := by
    intro rate? hrate hnotin a ha happlies himaginary
    exact hnotin (List.mem_filterMap.2
      ⟨a, List.mem_filter.2 ⟨ha, happlies⟩, hrate a himaginary⟩)
  refine AssumptionEffect.ext ?_ ?_ ?_
  · rw [computeAssumptionEffect_eq, computeAssumptionEffect_eq,
      (factors_foldl (hnone others hperm) _).1, (factors_foldl (hnone _ (.refl _)) _).1]
    exact foldl_times_perm (hfilter.filterMap _) fun hnotin => (h.rates hlive
      (hrates (fun _ => amountRate?_eq_some_none_iff.2) hnotin)).1
  · rw [amountAddend_eq, amountAddend_eq]
    exact h.addends.foldl_perm (hfilter.filterMap _)
  · rw [computeAssumptionEffect_eq, computeAssumptionEffect_eq,
      (factors_foldl (hnone others hperm) _).2, (factors_foldl (hnone _ (.refl _)) _).2]
    exact foldl_times_perm (hfilter.filterMap _) fun hnotin => (h.rates hlive
      (hrates (fun _ => quantityRate?_eq_some_none_iff.2) hnotin)).2

/-- Under the law every growth of a discontinued row has a rate, and without signals its addends
are zero together; and the law holds of all that is adjustable. -/
theorem adjustmentLaw_of_adjustable (assumptions : List Assumption) :
    (AdjustmentLaw platform scenario signals forecastStart row assumptions →
      IsDiscontinued row assumptions → GrowthsReal platform forecastStart row assumptions ∧
        ((∀ signal ∈ signals,
            inWindow signal.startDate signal.endDate row.periodDate = false) →
          Binary64.round (Binary64.sum (addends row assumptions)) = 0)) ∧
    (Adjustable platform forecastStart row assumptions →
      AdjustmentLaw platform scenario signals forecastStart row assumptions) := by
  constructor
  · intro h hdiscontinued
    have hreal : GrowthsReal platform forecastStart row assumptions := by
      intro a ha happlies himaginary
      obtain ⟨before, after, rfl⟩ := List.append_of_mem ha
      have hperm : (before ++ after ++ [a]).Perm (before ++ a :: after) :=
        (List.perm_append_singleton a _).trans List.perm_middle.symm
      have hnone := adjusted_imaginary platform scenario signals forecastStart row
        before after happlies himaginary
      rw [h.unordered _ hperm, h.discontinued hdiscontinued] at hnone
      cases hnone
    refine ⟨hreal, fun houtside => ?_⟩
    have hzero := h.discontinued hdiscontinued
    rw [adjusted_discontinued platform scenario signals forecastStart row hdiscontinued hreal,
      applySignals_outside houtside, Prod.mk.injEq, Option.some.injEq] at hzero
    exact hzero.1
  · intro h
    refine ⟨fun others hperm => ?_, fun others hsame => ?_, fun hdiscontinued =>
      adjusted_of_perm platform scenario signals forecastStart row h hdiscontinued (.refl _)⟩
    · by_cases hdiscontinued : IsDiscontinued row assumptions
      · rw [adjusted_of_perm platform scenario signals forecastStart row h hdiscontinued hperm,
          adjusted_of_perm platform scenario signals forecastStart row h hdiscontinued (.refl _)]
      · exact adjusted_congr platform scenario signals forecastStart row
          (computeAssumptionEffect_perm platform forecastStart row h hdiscontinued hperm)
    · refine adjusted_congr platform scenario signals forecastStart row ?_
      rw [computeAssumptionEffect_eq, computeAssumptionEffect_eq, hsame]

def plainServer : ForecastPlatform := ⟨fun _ => 0, fun _ _ => 1⟩

/-- A product that ends and whose price rises by ten at the same time. -/
theorem not_adjustmentLaw_priceAndEnd :
    ¬AdjustmentLaw plainServer .base [] 0 ⟨0, {}, 100, some 5, none, none⟩
      [⟨.discontinuation, some 0, .percentage, {}, none, none⟩,
        ⟨.priceChange, some 10, .absolute, {}, none, none⟩] := by
  intro h
  have hzero := h.discontinued (by decide +kernel)
  revert hzero
  decide +kernel

end Result

end Forecast.Forecasting
