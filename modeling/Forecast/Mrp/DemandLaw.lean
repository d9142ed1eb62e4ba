import Forecast.Mrp.NettingLaw

/-!
# Independent demand

The forecasts of a product for one place and day are averaged two at a time, in the order of
their rows, and a product is netted once for each of its active bills.
-/

open KeyedTable DecimalColumn

namespace Forecast.Mrp

open Costing (Day)

/-! ### Averages, two at a time -/

/-- A value takes half of the average so far. -/
def pairAverage (average? : Option Decimal) (value : Decimal) : Option Decimal :=
  some (average?.elim value fun a => average a value)

/-- The binary64 number that is nearest to the arithmetic mean. -/
def mean (values : List Decimal) : Decimal := Binary64.round (values.sum / values.length)

theorem average_eq {a b : Decimal} (ha : Binary64.IsDouble a) (hb : Binary64.IsDouble b) :
    average a b = Binary64.round ((a + b) / 2) := Binary64.div_add_two ha hb

theorem isDouble_average (a b : Decimal) : Binary64.IsDouble (average a b) :=
  Binary64.isDouble_round _

theorem foldl_pairAverage_const {values : List Decimal} {a : Decimal} (ha : Binary64.IsDouble a)
    (h : ∀ v ∈ values, v = a) : values.foldl pairAverage (some a) = some a := by
  induction values with
  | nil => rfl
  | cons v values ih =>
    have hhalf : pairAverage (some a) v = some a := by
      rw [pairAverage, h v List.mem_cons_self]
      refine congrArg some ((average_eq ha ha).trans ?_)
      rw [add_self_div_two]
      exact ha
    rw [List.foldl_cons, hhalf]
    exact ih fun w hw => h w (List.mem_cons_of_mem v hw)

/-- Two at a time is the mean for at most two values, or when all are equal. -/
theorem foldl_pairAverage_eq_mean {values : List Decimal} (hne : values ≠ [])
    (hdouble : ∀ v ∈ values, Binary64.IsDouble v)
    (hfew : values.length ≤ 2 ∨ ∀ a ∈ values, ∀ b ∈ values, a = b) :
    values.foldl pairAverage none = some (mean values) := by
  rcases hfew with hlength | hequal
  · match values, hlength with
    | [], _ => exact absurd rfl hne
    | [a], _ =>
      have ha : Binary64.round a = a := hdouble a List.mem_cons_self
      simp [mean, pairAverage, ha]
    | [a, b], _ =>
      have ha := hdouble a List.mem_cons_self
      have hb := hdouble b (List.mem_cons_of_mem a List.mem_cons_self)
      simp [mean, pairAverage, average_eq ha hb]
  · obtain ⟨a, values, rfl⟩ := List.exists_cons_of_ne_nil hne
    have hall : ∀ v ∈ a :: values, v = a := fun v hv => hequal v hv a List.mem_cons_self
    have ha : Binary64.IsDouble a := hdouble a List.mem_cons_self
    have hsum : (a :: values).sum = (a :: values).length * a := by
      rw [List.sum_eq_card_nsmul _ a hall, nsmul_eq_mul]
    have hpos : (((a :: values).length : ℕ) : Decimal) ≠ 0 := Nat.cast_ne_zero.2 (Nat.succ_ne_zero _)
    rw [mean, hsum, mul_div_cancel_left₀ a hpos, ha]
    exact foldl_pairAverage_const ha fun v hv => hall v (List.mem_cons_of_mem a hv)

/-- Below `2 ^ 34` an average is off by half a unit at most. -/
theorem abs_average_sub_le {a b : Decimal} (ha : Binary64.IsDouble a) (hb : Binary64.IsDouble b)
    (hsize : |a| + |b| < 2 ^ 35) : |average a b - (a + b) / 2| ≤ 1 / 2 ^ 20 := by
  rw [average_eq ha hb]
  have hhalf : |(a + b) / 2| < 2 ^ 34 := by
    rw [abs_div, abs_two]
    linarith [abs_add_le a b]
  refine (Binary64.abs_round_sub_le hhalf).trans (le_of_eq ?_)
  norm_num

theorem abs_average_le {a b : Decimal} (ha : Binary64.IsDouble a) (hb : Binary64.IsDouble b)
    (hale : |a| ≤ 2 ^ 33 + 1) (hble : |b| ≤ 2 ^ 33) : |average a b| ≤ 2 ^ 33 + 1 := by
  have hnear := abs_average_sub_le ha hb (by linarith)
  have htriangle := abs_sub_abs_le_abs_sub (average a b) ((a + b) / 2)
  rw [abs_div, abs_two] at htriangle
  linarith [abs_add_le a b]

theorem exists_foldl_pairAverage {values : List Decimal} (hne : values ≠ [])
    (hvalues : ∀ v ∈ values, Binary64.IsDouble v ∧ |v| ≤ 2 ^ 33) :
    ∃ a, values.foldl pairAverage none = some a ∧ Binary64.IsDouble a ∧ |a| ≤ 2 ^ 33 + 1 := by
  have hsome : ∀ (vs : List Decimal) (a : Decimal),
      (∀ v ∈ vs, Binary64.IsDouble v ∧ |v| ≤ 2 ^ 33) → Binary64.IsDouble a ∧ |a| ≤ 2 ^ 33 + 1 →
      ∃ b, vs.foldl pairAverage (some a) = some b ∧ Binary64.IsDouble b ∧ |b| ≤ 2 ^ 33 + 1 := by
    intro vs
    induction vs with
    | nil => exact fun a _ ha => ⟨a, rfl, ha⟩
    | cons v vs ih =>
      intro a hvs ha
      rw [List.forall_mem_cons] at hvs
      exact ih (average a v) hvs.2
        ⟨isDouble_average a v, abs_average_le ha.1 hvs.1.1 ha.2 hvs.1.2⟩
  obtain ⟨value, values, rfl⟩ := List.exists_cons_of_ne_nil hne
  rw [List.forall_mem_cons] at hvalues
  exact hsome values value hvalues.2 ⟨hvalues.1.1, by linarith [hvalues.1.2]⟩

/-- The last value counts half, so the order of the last two tells when they are apart. -/
theorem abs_sub_le_of_swap {before : List Decimal} {a b : Decimal} (hne : before ≠ [])
    (hvalues : ∀ v ∈ a :: b :: before, Binary64.IsDouble v ∧ |v| ≤ 2 ^ 33)
    (heq : (before ++ [a, b]).foldl pairAverage none = (before ++ [b, a]).foldl pairAverage none) :
    |a - b| ≤ 1 / 20000 := by
  simp only [List.forall_mem_cons] at hvalues
  obtain ⟨ha, hb, hvalues⟩ := hvalues
  obtain ⟨c, hc, hdouble, hsize⟩ := exists_foldl_pairAverage hne hvalues
  have hlast : ∀ x y : Decimal, Binary64.IsDouble x ∧ |x| ≤ 2 ^ 33 →
      Binary64.IsDouble y ∧ |y| ≤ 2 ^ 33 →
      (before ++ [x, y]).foldl pairAverage none = some (average (average c x) y) ∧
        |average (average c x) y - ((c + x) / 2 + y) / 2| ≤ 2 / 2 ^ 20 := by
    intro x y hx hy
    have hfirst := abs_average_sub_le hdouble hx.1 (by linarith [hx.2])
    have hsecond := abs_average_sub_le (isDouble_average c x) hy.1
      (by linarith [abs_average_le hdouble hx.1 hsize hx.2, hy.2])
    rw [List.foldl_append, hc]
    refine ⟨rfl, ?_⟩
    rw [abs_le] at hfirst hsecond ⊢
    constructor <;> linarith
  obtain ⟨hab, hnear⟩ := hlast a b ha hb
  obtain ⟨hba, hnear'⟩ := hlast b a hb ha
  rw [hab, hba, Option.some_inj] at heq
  rw [heq] at hnear
  rw [abs_le] at hnear hnear' ⊢
  constructor <;> linarith

/-- Of three values or more that stand apart the order tells. -/
theorem few_of_forall_perm {values : List Decimal} {m : Decimal}
    (hvalues : ∀ v ∈ values, Binary64.IsDouble v ∧ |v| ≤ 2 ^ 33)
    (hapart : ∀ a ∈ values, ∀ b ∈ values, a ≠ b → 1 / 20000 < |a - b|)
    (hmean : ∀ vs : List Decimal, vs.Perm values → vs.foldl pairAverage none = some m) :
    values.length ≤ 2 ∨ ∀ a ∈ values, ∀ b ∈ values, a = b := by
  by_contra! hcon
  obtain ⟨hlength, a, ha, b, hb, hne⟩ := hcon
  have hb' : b ∈ values.erase a := (List.mem_erase_of_ne hne.symm).2 hb
  let rest := (values.erase a).erase b
  have hperm : values.Perm (a :: b :: rest) :=
    (List.perm_cons_erase ha).trans ((List.perm_cons_erase hb').cons a)
  have hrest : rest ≠ [] := by
    intro hnil
    have hlen := hperm.length_eq
    rw [hnil] at hlen
    simp only [List.length_cons, List.length_nil] at hlen
    omega
  have hlast (x y : Decimal) : (rest ++ [x, y]).Perm (x :: y :: rest) := List.perm_append_comm
  have hab := hmean (rest ++ [a, b]) ((hlast a b).trans hperm.symm)
  have hba := hmean (rest ++ [b, a])
    ((hlast b a).trans ((List.Perm.swap a b rest).trans hperm.symm))
  have hnear := abs_sub_le_of_swap hrest (fun v hv => hvalues v (hperm.symm.subset hv))
    (hab.trans hba.symm)
  exact absurd (hapart a ha b hb hne) (not_lt.2 hnear)

/-- Every order of the values comes from an order of the rows. -/
theorem exists_perm_filterMap {α β : Type} {g : α → Option β} {xs : List α} {ys : List β}
    (h : ys.Perm (xs.filterMap g)) :
    ∃ xs' : List α, xs'.Perm xs ∧ xs'.filterMap g = ys := by
  induction xs generalizing ys with
  | nil => exact ⟨[], .nil, h.eq_nil.symm⟩
  | cons x xs ih =>
    cases hx : g x with
    | none =>
      rw [List.filterMap_cons_none hx] at h
      obtain ⟨xs', hperm, rfl⟩ := ih h
      exact ⟨x :: xs', hperm.cons x, List.filterMap_cons_none hx⟩
    | some y =>
      rw [List.filterMap_cons_some hx] at h
      obtain ⟨l, r, rfl⟩ := List.append_of_mem (h.symm.subset List.mem_cons_self)
      obtain ⟨xs', hperm, hvalues⟩ := ih ((List.perm_middle.symm.trans h).cons_inv)
      obtain ⟨before, after, rfl, rfl, rfl⟩ := List.filterMap_eq_append_iff.1 hvalues
      refine ⟨before ++ x :: after, List.perm_middle.trans (hperm.cons x), ?_⟩
      rw [List.filterMap_append, List.filterMap_cons_some hx]

namespace MrpData

variable (data : MrpData) (run : MRPRun)

/-- The forecasts that count, in the order of their rows. -/
def demands : List Demand := data.forecasts.filterMap (data.forecastDemand run)

/-- What is forecast of a product for a place and a day. -/
def quantitiesAt (key : Place × Day) : List Decimal :=
  ((data.demands run).filter fun d => d.key = key).map Demand.quantity

def withForecasts (forecasts : List ForecastRow) : MrpData := { data with forecasts }

/-- The quantities are small enough for binary64 numbers to keep them apart. -/
def HoldsForecasts : Prop :=
  ∀ f ∈ data.forecasts, ∀ q ∈ f.forecastQuantity, |q.value| ≤ 2 ^ 32

/-- In whatever order the rows come, the demand of a day is the mean of its forecasts, and a
product that has some is netted once for every location. -/
structure DemandLaw : Prop where
  mean : ∀ rows : List ForecastRow, rows.Perm data.forecasts → ∀ key,
    data.quantitiesAt run key ≠ [] →
      (lookup Demand.key ((data.withForecasts rows).demandMap run) key).map Demand.quantity =
        some (mean (data.quantitiesAt run key))
  once : ∀ d ∈ data.demands run, ∀ locationId ∈ data.locationIds run,
    ((data.calculateMRP run).netted (d.place.1, locationId)).requirements.map
      RequirementData.periodDate = data.buckets run

/-- A day has at most two forecasts of a product for a place, or equal ones, and every product
with a forecast has one bill. -/
structure DemandsAgree : Prop where
  few : ∀ key, (data.quantitiesAt run key).length ≤ 2 ∨
    ∀ a ∈ data.quantitiesAt run key, ∀ b ∈ data.quantitiesAt run key, a = b
  oneBill : ∀ d ∈ data.demands run, ∀ locationId ∈ data.locationIds run,
    data.PlansOnce run (d.place.1, locationId)

variable {data run}

/-- An entry of the map is the average of its forecasts. -/
theorem lookup_foldl_addDemand (ds demands : List Demand) (key : Place × Day) :
    (lookup Demand.key (ds.foldl addDemand demands) key).map Demand.quantity =
      ((ds.filter fun d => d.key = key).map Demand.quantity).foldl pairAverage
        ((lookup Demand.key demands key).map Demand.quantity) := by
  induction ds generalizing demands with
  | nil => rfl
  | cons d ds ih =>
    rw [List.foldl_cons, ih]
    by_cases hd : d.key = key
    · have hadded : (lookup Demand.key (addDemand demands d) key).map Demand.quantity =
          pairAverage ((lookup Demand.key demands key).map Demand.quantity) d.quantity := by
        unfold addDemand
        rw [hd]
        cases lookup Demand.key demands key with
        | none => rw [lookup_upsert, if_pos hd]; rfl
        | some existing =>
          have hkey : Demand.key { d with quantity := average existing.quantity d.quantity } =
              key := hd
          rw [lookup_upsert, if_pos hkey]
          rfl
      rw [hadded, List.filter_cons_of_pos (by simpa using hd), List.map_cons, List.foldl_cons]
    · have hother : lookup Demand.key (addDemand demands d) key =
          lookup Demand.key demands key := by
        unfold addDemand
        cases lookup Demand.key demands d.key with
        | none => rw [lookup_upsert, if_neg hd]
        | some existing => rw [lookup_upsert, if_neg (by exact hd)]
      rw [hother, List.filter_cons_of_neg (by simpa using hd)]

theorem lookup_demandMap (rows : List ForecastRow) (key : Place × Day) :
    (lookup Demand.key ((data.withForecasts rows).demandMap run) key).map Demand.quantity =
      ((data.withForecasts rows).quantitiesAt run key).foldl pairAverage none :=
  lookup_foldl_addDemand _ [] key

theorem quantitiesAt_eq_filterMap (key : Place × Day) :
    data.quantitiesAt run key = data.forecasts.filterMap fun f =>
      ((data.forecastDemand run f).filter fun d => d.key = key).map Demand.quantity := by
  rw [quantitiesAt, demands, List.filter_filterMap, List.map_filterMap]

theorem quantitiesAt_perm {rows : List ForecastRow} (h : rows.Perm data.forecasts)
    (key : Place × Day) :
    ((data.withForecasts rows).quantitiesAt run key).Perm (data.quantitiesAt run key) :=
  ((h.filterMap (data.forecastDemand run)).filter _).map _

theorem exists_of_mem_quantitiesAt {key : Place × Day} {v : Decimal}
    (hv : v ∈ data.quantitiesAt run key) : ∃ q : Decimal, v = Binary64.round q ∧ OnScale 4 q ∧
      (data.HoldsForecasts → |q| ≤ 2 ^ 32) := by
  obtain ⟨d, hd, rfl⟩ := List.mem_map.1 hv
  obtain ⟨f, hf, hdemand⟩ := List.mem_filterMap.1 (List.mem_of_mem_filter hd)
  have hquantity : d.quantity = (f.forecastQuantity.map toNumber).getD 0 := by
    unfold forecastDemand at hdemand
    split at hdemand
    · split_ifs at hdemand
      rw [← Option.some.inj hdemand]
    · cases hdemand
  rw [hquantity]
  cases hq : f.forecastQuantity with
  | none => exact ⟨0, Binary64.round_zero.symm, OnScale.zero, fun _ => by norm_num⟩
  | some q => exact ⟨q.value, rfl, q.onScale_value, fun hholds => hholds f hf q hq⟩

theorem isDouble_of_mem_quantitiesAt {key : Place × Day} {v : Decimal}
    (hv : v ∈ data.quantitiesAt run key) : Binary64.IsDouble v := by
  obtain ⟨q, rfl, -⟩ := exists_of_mem_quantitiesAt hv
  exact Binary64.isDouble_round q

/-- Numbers of four decimals stay apart. -/
theorem apart_of_mem_quantitiesAt (hholds : data.HoldsForecasts) {key : Place × Day} {a b : Decimal}
    (ha : a ∈ data.quantitiesAt run key) (hb : b ∈ data.quantitiesAt run key) :
    |a| ≤ 2 ^ 33 ∧ (a ≠ b → 1 / 20000 < |a - b|) := by
  obtain ⟨p, rfl, hp, hple⟩ := exists_of_mem_quantitiesAt ha
  obtain ⟨q, rfl, hq, hqle⟩ := exists_of_mem_quantitiesAt hb
  have hnear : ∀ x : Decimal, |x| ≤ 2 ^ 32 → |Binary64.round x - x| ≤ 1 / 2 ^ 21 := by
    intro x hx
    refine (Binary64.abs_round_sub_le (k := 33) (hx.trans_lt (by norm_num))).trans (le_of_eq ?_)
    norm_num
  have hpnear := hnear p (hple hholds)
  have hqnear := hnear q (hqle hholds)
  refine ⟨?_, fun hne => ?_⟩
  · linarith [abs_sub_abs_le_abs_sub (Binary64.round p) p, hple hholds]
  · obtain ⟨z, hz⟩ := hp.sub hq
    have hzne : z ≠ 0 := by
      rintro rfl
      have heq : p = q := by
        rw [Int.cast_zero, mul_eq_zero, sub_eq_zero] at hz
        exact hz.resolve_right (by norm_num)
      exact hne (congrArg Binary64.round heq)
    have hone : (1 : Decimal) ≤ |(z : Decimal)| := by exact_mod_cast Int.one_le_abs hzne
    rw [← hz, abs_mul, abs_of_pos (by norm_num : (0 : Decimal) < 10 ^ 4)] at hone
    have htriangle : |p - q| ≤ |Binary64.round p - p| +
        (|Binary64.round p - Binary64.round q| + |Binary64.round q - q|) := by
      rw [abs_sub_comm (Binary64.round p) p]
      exact (abs_sub_le p (Binary64.round p) q).trans
        (add_le_add le_rfl (abs_sub_le _ (Binary64.round q) q))
    norm_num at hone hpnear hqnear ⊢
    linarith

theorem lookup_demandMap_of_few {rows : List ForecastRow} (hrows : rows.Perm data.forecasts)
    {key : Place × Day} (hne : data.quantitiesAt run key ≠ [])
    (hfew : (data.quantitiesAt run key).length ≤ 2 ∨
      ∀ a ∈ data.quantitiesAt run key, ∀ b ∈ data.quantitiesAt run key, a = b) :
    (lookup Demand.key ((data.withForecasts rows).demandMap run) key).map Demand.quantity =
      some (mean (data.quantitiesAt run key)) := by
  have hperm : ((data.withForecasts rows).quantitiesAt run key).Perm (data.quantitiesAt run key) :=
    quantitiesAt_perm hrows key
  have hmean : mean (data.quantitiesAt run key) =
      mean ((data.withForecasts rows).quantitiesAt run key) := by
    rw [mean, mean, hperm.sum_eq, hperm.length_eq]
  rw [lookup_demandMap, hmean]
  refine foldl_pairAverage_eq_mean (fun hnil => hne ?_)
    (fun v hv => isDouble_of_mem_quantitiesAt (hperm.subset hv)) ?_
  · rw [hnil] at hperm
    exact hperm.symm.eq_nil
  · rw [hperm.length_eq]
    exact hfew.imp id fun h a ha b hb => h a (hperm.subset ha) b (hperm.subset hb)

theorem few_of_demands (hholds : data.HoldsForecasts) {key : Place × Day}
    (hmean : ∀ rows : List ForecastRow, rows.Perm data.forecasts →
      (lookup Demand.key ((data.withForecasts rows).demandMap run) key).map Demand.quantity =
        some (mean (data.quantitiesAt run key))) :
    (data.quantitiesAt run key).length ≤ 2 ∨
      ∀ a ∈ data.quantitiesAt run key, ∀ b ∈ data.quantitiesAt run key, a = b := by
  refine few_of_forall_perm
    (fun v hv => ⟨isDouble_of_mem_quantitiesAt hv, (apart_of_mem_quantitiesAt hholds hv hv).1⟩)
    (fun a ha b hb => (apart_of_mem_quantitiesAt hholds ha hb).2)
    (m := mean (data.quantitiesAt run key)) fun values hvalues => ?_
  rw [quantitiesAt_eq_filterMap] at hvalues
  obtain ⟨rows, hrows, rfl⟩ := exists_perm_filterMap hvalues
  have h := hmean rows hrows
  rw [lookup_demandMap, quantitiesAt_eq_filterMap] at h
  exact h

theorem buckets_ne_nil {d : Demand} (hd : d ∈ data.demands run) : data.buckets run ≠ [] := by
  obtain ⟨f, -, hf⟩ := List.mem_filterMap.1 hd
  unfold forecastDemand at hf
  split at hf
  · split_ifs at hf with hcounts
    have hweeks : (0 : ℤ) ≤ (data.horizonEnd run - data.today) / 7 :=
      Int.ediv_nonneg (Int.sub_nonneg_of_le (hcounts.2.2.1.trans hcounts.2.2.2)) (by decide)
    intro hnone
    have hlength := congrArg List.length hnone
    rw [buckets, List.length_map, List.length_range, List.length_nil] at hlength
    omega
  · cases hf

theorem map_periodDate_passPlan (place : Place) (onHand : Decimal) (days : List Day) :
    (data.passPlan run place onHand days).requirements.map RequirementData.periodDate = days := by
  induction days generalizing onHand with
  | nil => rfl
  | cons day days ih =>
    rw [passPlan, MrpPlan.requirements_append, List.map_append, ih]
    rfl

/-- A place is netted once a week exactly when it is planned once. -/
theorem nettedOnce_iff {place : Place} (hbuckets : data.buckets run ≠ []) :
    ((data.calculateMRP run).netted place).requirements.map RequirementData.periodDate =
      data.buckets run ↔ data.PlansOnce run place := by
  constructor
  · intro h
    have hlength := congrArg List.length h
    rw [List.length_map] at hlength
    exact data.plansOnce_of_length run hbuckets hlength
  · intro h
    rw [netted_calculateMRP data run h, map_periodDate_passPlan]

/-- Demand is the mean of its forecasts and netted once when each day has few or equal forecasts
and each product one bill; and only then as far as binary64 numbers keep the forecasts apart. -/
theorem demandLaw_of_demandsAgree (data : MrpData) (run : MRPRun) :
    (data.DemandsAgree run → data.DemandLaw run) ∧
      (data.HoldsForecasts ∧ data.DemandLaw run → data.DemandsAgree run) := by
  have hnetted : ∀ d ∈ data.demands run, ∀ locationId ∈ data.locationIds run,
      (((data.calculateMRP run).netted (d.place.1, locationId)).requirements.map
        RequirementData.periodDate = data.buckets run ↔
          data.PlansOnce run (d.place.1, locationId)) :=
    fun d hd _ _ => nettedOnce_iff (buckets_ne_nil hd)
  constructor
  · rintro ⟨hfew, honce⟩
    exact ⟨fun rows hrows key hkey => lookup_demandMap_of_few hrows hkey (hfew key),
      fun d hd l hl => (hnetted d hd l hl).2 (honce d hd l hl)⟩
  · rintro ⟨hholds, hmean, honce⟩
    refine ⟨fun key => ?_, fun d hd l hl => (hnetted d hd l hl).1 (honce d hd l hl)⟩
    by_cases hkey : data.quantitiesAt run key = []
    · exact .inl (by rw [hkey]; exact Nat.zero_le 2)
    · exact few_of_demands hholds fun rows hrows => hmean rows hrows key hkey

end MrpData

/-- Forecasts of nothing, nothing and four pieces for one day. -/
def threeForecasts : MrpData :=
  { shortToday with
    forecasts := [0, 0, 4].map fun quantity =>
      { productId := some 1, locationId := some 1, periodDate := 0
        forecastQuantity := some (Manufacturing.pieces quantity) } }

/-- The last forecast counts half: two pieces instead of four thirds. -/
theorem not_demandLaw_threeForecasts : ¬threeForecasts.DemandLaw frozenRun := by
  intro h
  have hmean := h.mean _ (List.Perm.refl _) ((1, 1), 0) (by decide +kernel)
  revert hmean
  decide +kernel

end Forecast.Mrp
