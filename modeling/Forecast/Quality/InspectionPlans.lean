import Forecast.Manufacturing.FactoryTables

/-!
# Inspection plans and recorded results

A plan is created with the limits of its characteristics, and a measured value is recorded with
whether it is within them. A limit of zero is not stored, and the others are stored with six
decimals.
-/

open KeyedTable DecimalColumn Transactions

namespace Forecast.Quality

open Manufacturing (InspectionStatus)

inductive SamplingProcedure where
  | fixed
  | percentage
  | aql
  | skipLot
deriving DecidableEq

inductive CharacteristicType where
  | quantitative
  | qualitative
  | attribute
deriving DecidableEq

structure CharacteristicInput where
  characteristicName : String
  characteristicType : Option CharacteristicType := none
  uom : Option String := none
  lowerLimit : Option Decimal := none
  upperLimit : Option Decimal := none
  targetValue : Option Decimal := none
  isCritical : Option Bool := none
  method : Option String := none
  equipment : Option String := none

structure PlanInput where
  planNumber : String
  name : String
  productId : Option Id := none
  samplingProcedure : Option SamplingProcedure := none
  sampleSize : Option ℕ := none
  samplePercentage : Option Decimal := none
  characteristics : List CharacteristicInput := []

structure InspectionPlanCharacteristic where
  id : Id
  sequence : ℕ
  characteristicName : String
  characteristicType : CharacteristicType
  uom : Option String
  lowerLimit : Option (Column 18 6)
  upperLimit : Option (Column 18 6)
  targetValue : Option (Column 18 6)
  isCritical : Bool
  method : Option String
  equipment : Option String
deriving DecidableEq

structure InspectionPlan where
  id : Id
  planNumber : String
  name : String
  productId : Option Id
  samplingProcedure : SamplingProcedure
  sampleSize : Option ℕ
  samplePercentage : Option (Column 5 2)
  characteristics : List InspectionPlanCharacteristic
deriving DecidableEq

/-- What recording results reads of an inspection. -/
structure PlannedInspection where
  id : Id
  status : InspectionStatus := .pending
  inspectionPlanId : Option Id := none
deriving DecidableEq

structure InspectionResult where
  inspectionId : Id
  characteristicId : Id
  measuredValue : Option (Column 18 6)
  qualitativeResult : Option String
  isWithinSpec : Bool
deriving DecidableEq

structure InspectionDb where
  plans : List InspectionPlan := []
  inspections : List PlannedInspection := []
  results : List InspectionResult := []

inductive ResultError where
  | notFound
  | notRecordable
  /-- A value has more digits than its column, or a key is taken or unknown. -/
  | refused
deriving DecidableEq

/-- The message of an error; the database words its own. -/
def ResultError.text : ResultError → Option String
  | notRecordable => some "Inspection is not in a recordable state"
  | notFound | refused => none

/-- `q ? new Decimal(q) : undefined` as the column keeps it: zero counts as none. -/
def storedNumber {p s : ℕ} : Option Decimal → Except ResultError (Option (Column p s))
  | none => .ok none
  | some q =>
    if q = 0 then .ok none
    else do
      let stored ← found (Column.store q) .refused
      pure (some stored)

/-! ### Creating a plan -/

def CharacteristicInput.create (input : CharacteristicInput) (idx id : ℕ) :
    Except ResultError InspectionPlanCharacteristic := do
  let lowerLimit ← storedNumber input.lowerLimit
  let upperLimit ← storedNumber input.upperLimit
  let targetValue ← storedNumber input.targetValue
  pure
    { id := id
      sequence := (idx + 1) * 10
      characteristicName := input.characteristicName
      characteristicType := input.characteristicType.getD .quantitative
      uom := input.uom
      lowerLimit := lowerLimit
      upperLimit := upperLimit
      targetValue := targetValue
      isCritical := input.isCritical.getD false
      method := input.method
      equipment := input.equipment }

/-- The characteristics in their order, with new ids from one on. -/
def createCharacteristics (firstId : Id) :
    ℕ → List CharacteristicInput → Except ResultError (List InspectionPlanCharacteristic)
  | _, [] => .ok []
  | idx, input :: inputs => do
      let characteristic ← input.create idx (firstId + idx)
      let rest ← createCharacteristics firstId (idx + 1) inputs
      pure (characteristic :: rest)

namespace InspectionDb

variable (db : InspectionDb)

def nextCharacteristicId : Id :=
  freshId ((db.plans.flatMap InspectionPlan.characteristics).map InspectionPlanCharacteristic.id)

def createInspectionPlan (data : PlanInput) :
    Except ResultError (InspectionDb × InspectionPlan) := do
  throwWhen (∃ plan ∈ db.plans, plan.planNumber = data.planNumber) .refused
  let samplePercentage ← storedNumber data.samplePercentage
  let characteristics ← createCharacteristics db.nextCharacteristicId 0 data.characteristics
  let plan : InspectionPlan :=
    { id := db.plans.length
      planNumber := data.planNumber
      name := data.name
      productId := data.productId
      samplingProcedure := data.samplingProcedure.getD .fixed
      sampleSize := data.sampleSize
      samplePercentage := samplePercentage
      characteristics := characteristics }
  pure ({ db with plans := db.plans ++ [plan] }, plan)

end InspectionDb

/-! ### Recording results -/

structure ResultInput where
  characteristicId : Id
  measuredValue : Option Decimal := none
  qualitativeResult : Option String := none

/-- A verdict that puts the result out of specification whatever was measured. -/
def ResultInput.isFailing (result : ResultInput) : Bool :=
  result.qualitativeResult = some "FAIL" ∨ result.qualitativeResult = some "NOT_ACCEPTABLE"

def InspectionPlanCharacteristic.keeps (characteristic : InspectionPlanCharacteristic)
    (measured : Decimal) : Bool :=
  !(characteristic.lowerLimit.any fun limit => measured < limit.value) &&
    !(characteristic.upperLimit.any fun limit => limit.value < measured)

def ResultInput.isWithinSpec (result : ResultInput)
    (characteristic : Option InspectionPlanCharacteristic) : Bool :=
  (match characteristic, result.measuredValue with
    | some characteristic, some measured => characteristic.keeps measured
    | _, _ => true) && !result.isFailing

namespace InspectionDb

variable (db : InspectionDb)

def characteristicsOf (inspection : PlannedInspection) : List InspectionPlanCharacteristic :=
  ((inspection.inspectionPlanId.bind fun id => lookup InspectionPlan.id db.plans id).map
    InspectionPlan.characteristics).getD []

def createResult (inspection : PlannedInspection) (result : ResultInput) :
    Except ResultError InspectionResult := do
  let characteristic := lookup InspectionPlanCharacteristic.id (db.characteristicsOf inspection)
    result.characteristicId
  -- the key of the result is one of any plan's characteristics
  throwWhen (¬∃ plan ∈ db.plans, ∃ c ∈ plan.characteristics, c.id = result.characteristicId)
    .refused
  let measuredValue ← storedNumber result.measuredValue
  pure
    { inspectionId := inspection.id
      characteristicId := result.characteristicId
      measuredValue := measuredValue
      qualitativeResult := result.qualitativeResult
      isWithinSpec := result.isWithinSpec characteristic }

def recordInspectionResults (inspectionId : Id) (results : List ResultInput) :
    Except ResultError (InspectionDb × List InspectionResult) := do
  let inspection ← found (lookup PlannedInspection.id db.inspections inspectionId) .notFound
  throwWhen (inspection.status ≠ .pending ∧ inspection.status ≠ .inProgress) .notRecordable
  let records ← results.mapM (db.createResult inspection)
  pure
    ({ db with
        inspections := upsert PlannedInspection.id db.inspections
          { inspection with status := .inProgress }
        results := db.results ++ records }, records)

end InspectionDb

/-! ### What the limits should mean -/

/-- The plan was created with the input, which became the characteristic. -/
def IsCreated (input : CharacteristicInput) (plan : InspectionPlan)
    (characteristic : InspectionPlanCharacteristic) : Prop :=
  ∃ (db db' : InspectionDb) (data : PlanInput) (idx : ℕ),
    db.createInspectionPlan data = .ok (db', plan) ∧ data.characteristics[idx]? = some input ∧
      plan.characteristics[idx]? = some characteristic

/-- The row was written for the result, on an inspection of the plan. -/
def IsRecorded (plan : InspectionPlan) (result : ResultInput) (record : InspectionResult) : Prop :=
  ∃ (db db' : InspectionDb) (inspectionId : Id) (inspection : PlannedInspection)
    (results : List ResultInput) (records : List InspectionResult) (j : ℕ),
    lookup PlannedInspection.id db.inspections inspectionId = some inspection ∧
      db.characteristicsOf inspection = plan.characteristics ∧
      db.recordInspectionResults inspectionId results = .ok (db', records) ∧
      results[j]? = some result ∧ records[j]? = some record

namespace CharacteristicInput

variable (input : CharacteristicInput) (v : Decimal)

/-- The value is within the limits that were supplied. -/
def Allows : Prop := (∀ l ∈ input.lowerLimit, l ≤ v) ∧ ∀ u ∈ input.upperLimit, v ≤ u

/-- A limit other than zero stands beyond the value when it is rounded to six decimals. -/
def BreaksRounded : Prop :=
  (∃ l ∈ input.lowerLimit, l ≠ 0 ∧ v < roundToScale 6 l) ∨
    ∃ u ∈ input.upperLimit, u ≠ 0 ∧ roundToScale 6 u < v

/-- A limit that the value keeps is rounded past it. -/
def RoundsPast : Prop :=
  (∃ l ∈ input.lowerLimit, l ≤ v ∧ v < roundToScale 6 l) ∨
    ∃ u ∈ input.upperLimit, v ≤ u ∧ roundToScale 6 u < v

/-- A value within the limits has no failing verdict, and rounding does not move a limit past
it; a value that breaks one has a failing verdict, or breaks one that is not zero and stays
beyond it when rounded. -/
def ReadsRight (failing : Bool) : Prop :=
  (input.Allows v → failing = false ∧ ¬input.RoundsPast v) ∧
    (¬input.Allows v → failing = true ∨ input.BreaksRounded v)

end CharacteristicInput

/-! ### From the input to the row -/

/-- The stored limit: none for zero. -/
theorem storedNumber_eq_ok {p s : ℕ} {q : Option Decimal} {stored : Option (Column p s)}
    (h : storedNumber q = .ok stored) (P : Decimal → Prop) :
    (∃ c ∈ stored, P c.value) ↔ ∃ x ∈ q, x ≠ 0 ∧ P (roundToScale s x) := by
  cases q with
  | none =>
    cases h
    simp
  | some x =>
    unfold storedNumber at h
    dsimp only at h
    split_ifs at h with hx
    · cases h
      simp [hx]
    · simp only [bind_eq_ok, pure_eq_ok, found_eq_ok] at h
      obtain ⟨c, hc, rfl⟩ := h
      simp [hx, Column.value_of_store_eq hc]

theorem createCharacteristics_getElem? {firstId idx : ℕ} {inputs : List CharacteristicInput}
    {characteristics : List InspectionPlanCharacteristic}
    (h : createCharacteristics firstId idx inputs = .ok characteristics) {i : ℕ}
    {characteristic : InspectionPlanCharacteristic}
    (hcharacteristic : characteristics[i]? = some characteristic) :
    ∃ input, inputs[i]? = some input ∧
      input.create (idx + i) (firstId + (idx + i)) = .ok characteristic := by
  induction inputs generalizing idx i characteristics with
  | nil =>
    cases h
    simp at hcharacteristic
  | cons first inputs ih =>
    simp only [createCharacteristics, bind_eq_ok, pure_eq_ok] at h
    obtain ⟨head, hhead, rest, hrest, rfl⟩ := h
    cases i with
    | zero =>
      rw [List.getElem?_cons_zero, Option.some_inj] at hcharacteristic
      subst hcharacteristic
      exact ⟨first, rfl, hhead⟩
    | succ i =>
      rw [List.getElem?_cons_succ] at hcharacteristic
      rw [List.getElem?_cons_succ, Nat.add_succ, ← Nat.succ_add]
      exact ih hrest hcharacteristic

theorem nodup_createCharacteristics {firstId idx : ℕ} {inputs : List CharacteristicInput}
    {characteristics : List InspectionPlanCharacteristic}
    (h : createCharacteristics firstId idx inputs = .ok characteristics) :
    (characteristics.map InspectionPlanCharacteristic.id).Nodup := by
  have hids : characteristics.map InspectionPlanCharacteristic.id =
      List.range' (firstId + idx) characteristics.length := by
    induction inputs generalizing idx characteristics with
    | nil =>
      cases h
      rfl
    | cons input inputs ih =>
      simp only [createCharacteristics, bind_eq_ok, pure_eq_ok] at h
      obtain ⟨head, hhead, rest, hrest, rfl⟩ := h
      simp only [CharacteristicInput.create, bind_eq_ok, pure_eq_ok] at hhead
      obtain ⟨_, -, _, -, _, -, rfl⟩ := hhead
      rw [List.map_cons, ih hrest, List.length_cons, List.range'_succ, Nat.add_assoc]
  rw [hids]
  exact List.nodup_range'

/-- A limit that is rounded past a value is not zero. -/
theorem CharacteristicInput.roundsPast_iff {input : CharacteristicInput} {v : Decimal}
    (h : input.Allows v) : input.RoundsPast v ↔ input.BreaksRounded v := by
  have hne : ∀ {l : Decimal}, l ≤ v → v < roundToScale 6 l → l ≠ 0 := by
    rintro l hle hlt rfl
    rw [roundToScale_zero] at hlt
    exact absurd hlt (not_lt.2 hle)
  have hne' : ∀ {u : Decimal}, v ≤ u → roundToScale 6 u < v → u ≠ 0 := by
    rintro u hle hlt rfl
    rw [roundToScale_zero] at hlt
    exact absurd hlt (not_lt.2 hle)
  constructor
  · rintro (⟨l, hl, hle, hlt⟩ | ⟨u, hu, hle, hlt⟩)
    · exact Or.inl ⟨l, hl, hne hle hlt, hlt⟩
    · exact Or.inr ⟨u, hu, hne' hle hlt, hlt⟩
  · rintro (⟨l, hl, -, hlt⟩ | ⟨u, hu, -, hlt⟩)
    · exact Or.inl ⟨l, hl, h.1 l hl, hlt⟩
    · exact Or.inr ⟨u, hu, h.2 u hu, hlt⟩

section Characteristic

variable {input : CharacteristicInput} {plan : InspectionPlan}
  {characteristic : InspectionPlanCharacteristic} {v : Decimal}

/-- What is kept of a characteristic's limits. -/
theorem keeps_iff {idx id : ℕ} (h : input.create idx id = .ok characteristic) :
    characteristic.keeps v = true ↔ ¬input.BreaksRounded v := by
  simp only [CharacteristicInput.create, bind_eq_ok, pure_eq_ok] at h
  obtain ⟨lowerLimit, hlower, upperLimit, hupper, _, -, rfl⟩ := h
  have hlow := storedNumber_eq_ok hlower fun l => v < l
  have hupp := storedNumber_eq_ok hupper fun u => u < v
  rw [CharacteristicInput.BreaksRounded, ← hlow, ← hupp]
  cases lowerLimit <;> cases upperLimit <;> simp [InspectionPlanCharacteristic.keeps]

theorem IsCreated.lookup_eq (h : IsCreated input plan characteristic) :
    lookup InspectionPlanCharacteristic.id plan.characteristics characteristic.id =
      some characteristic ∧ ∃ idx id, input.create idx id = .ok characteristic := by
  obtain ⟨db, db', data, idx, hcreate, hinput, hcharacteristic⟩ := h
  simp only [InspectionDb.createInspectionPlan, bind_eq_ok, pure_eq_ok, Prod.mk.injEq] at hcreate
  obtain ⟨-, -, _, -, characteristics, hcharacteristics, -, rfl⟩ := hcreate
  refine ⟨lookup_of_mem (nodup_createCharacteristics hcharacteristics)
    (List.mem_of_getElem? hcharacteristic), ?_⟩
  obtain ⟨supplied, hsupplied, hcreated⟩ :=
    createCharacteristics_getElem? hcharacteristics hcharacteristic
  cases hinput.symm.trans hsupplied
  exact ⟨_, _, hcreated⟩

theorem IsRecorded.isWithinSpec_eq {result : ResultInput} {record : InspectionResult}
    (h : IsRecorded plan result record) :
    record.isWithinSpec = result.isWithinSpec
      (lookup InspectionPlanCharacteristic.id plan.characteristics result.characteristicId) := by
  obtain ⟨db, db', inspectionId, inspection, results, records, j, hfound, hplan, hrecord, hresult,
    hrow⟩ := h
  simp only [InspectionDb.recordInspectionResults, bind_eq_ok, pure_eq_ok, found_eq_ok,
    Prod.mk.injEq] at hrecord
  obtain ⟨inspection', hfound', -, -, written, hwritten, -, rfl⟩ := hrecord
  cases hfound.symm.trans hfound'
  obtain ⟨hj, rfl⟩ := List.getElem?_eq_some_iff.1 hresult
  obtain ⟨hj', rfl⟩ := List.getElem?_eq_some_iff.1 hrow
  have hcreated : db.createResult inspection results[j] = .ok written[j] :=
    (List.forall₂_iff_get.1 (forall₂_of_mapM_eq_ok hwritten)).2 j hj hj'
  simp only [InspectionDb.createResult, bind_eq_ok, pure_eq_ok, hplan] at hcreated
  obtain ⟨-, -, _, -, hwithin⟩ := hcreated
  rw [← hwithin]

/-- Which measured values are recorded as the supplied limits say. -/
theorem isWithinSpec_iff {result : ResultInput} {record : InspectionResult}
    (hcreated : IsCreated input plan characteristic) (hrecorded : IsRecorded plan result record)
    (hid : result.characteristicId = characteristic.id) (hv : result.measuredValue = some v) :
    (record.isWithinSpec = true ↔ input.Allows v) ↔ input.ReadsRight v result.isFailing := by
  obtain ⟨hlookup, idx, id, hcreate⟩ := hcreated.lookup_eq
  have hrow : record.isWithinSpec = true ↔
      ¬input.BreaksRounded v ∧ result.isFailing = false := by
    rw [hrecorded.isWithinSpec_eq, hid, hlookup, ← keeps_iff hcreate]
    simp [ResultInput.isWithinSpec, hv]
  rw [hrow, CharacteristicInput.ReadsRight]
  by_cases hallows : input.Allows v
  · simp only [hallows, iff_true, forall_const, not_true, IsEmpty.forall_iff, and_true,
      CharacteristicInput.roundsPast_iff hallows]
    exact and_comm
  · cases result.isFailing <;> simp [hallows]

end Characteristic

/-! ### A plan with one characteristic -/

def coldRoom : CharacteristicInput where
  characteristicName := "Temperature"
  lowerLimit := some 0
  upperLimit := some 5

def coldRoomCharacteristic : InspectionPlanCharacteristic where
  id := 1
  sequence := 10
  characteristicName := "Temperature"
  characteristicType := .quantitative
  uom := none
  lowerLimit := none
  upperLimit := Column.store 5
  targetValue := none
  isCritical := false
  method := none
  equipment := none

def coldRoomPlan : InspectionPlan where
  id := 0
  planNumber := "IP-1"
  name := "Cold room"
  productId := none
  samplingProcedure := .fixed
  sampleSize := none
  samplePercentage := none
  characteristics := [coldRoomCharacteristic]

theorem isCreated_coldRoom : IsCreated coldRoom coldRoomPlan coldRoomCharacteristic := by
  let data : PlanInput :=
    { planNumber := "IP-1"
      name := "Cold room"
      characteristics := [coldRoom] }
  obtain ⟨⟨db', plan⟩, hcreated, rfl⟩ := exists_of_toOption (f := Prod.snd)
    (x := InspectionDb.createInspectionPlan {} data) (b := coldRoomPlan) (by decide +kernel)
  exact ⟨_, db', data, 0, hcreated, rfl, rfl⟩

def temperature (measured : Decimal) : ResultInput where
  characteristicId := 1
  measuredValue := some measured

def temperatureRow (measured : Decimal) (isWithinSpec : Bool) : InspectionResult where
  inspectionId := 9
  characteristicId := 1
  measuredValue := Column.store measured
  qualitativeResult := none
  isWithinSpec := isWithinSpec

def coldRoomDb : InspectionDb where
  plans := [coldRoomPlan]
  inspections := [{ id := 9, inspectionPlanId := some 0 }]

theorem isRecorded_temperature {measured : Decimal} {isWithinSpec : Bool}
    (h : (coldRoomDb.recordInspectionResults 9 [temperature measured]).toOption.map Prod.snd =
      some [temperatureRow measured isWithinSpec]) :
    IsRecorded coldRoomPlan (temperature measured) (temperatureRow measured isWithinSpec) := by
  obtain ⟨⟨db', records⟩, hrecorded, rfl⟩ := exists_of_toOption h
  exact ⟨coldRoomDb, db', 9, _, _, _, 0, rfl, rfl, hrecorded, rfl, rfl⟩

/-- Six degrees are too warm. -/
theorem isWithinSpec_iff_sixDegrees :
    ((temperatureRow 6 false).isWithinSpec = true ↔ coldRoom.Allows 6) ↔
      coldRoom.ReadsRight 6 (temperature 6).isFailing :=
  isWithinSpec_iff isCreated_coldRoom (isRecorded_temperature (by decide +kernel)) rfl rfl

/-- One degree of frost is recorded as within the limits. -/
theorem not_isWithinSpec_iff_frost :
    ∃ (input : CharacteristicInput) (plan : InspectionPlan)
      (characteristic : InspectionPlanCharacteristic) (result : ResultInput)
      (record : InspectionResult),
      IsCreated input plan characteristic ∧ IsRecorded plan result record ∧
        result.characteristicId = characteristic.id ∧ result.measuredValue = some (-1) ∧
        ¬(record.isWithinSpec = true ↔ input.Allows (-1)) := by
  refine ⟨coldRoom, coldRoomPlan, coldRoomCharacteristic, temperature (-1),
    temperatureRow (-1) true, isCreated_coldRoom, isRecorded_temperature (by decide +kernel),
    rfl, rfl, fun h => ?_⟩
  have hlower : (0 : Decimal) ≤ -1 := (h.1 rfl).1 0 rfl
  norm_num at hlower

end Forecast.Quality
