import Forecast.Forecasting.Assumptions
import Forecast.Lib.Batches
import Forecast.Lib.KeyedTable

/-!
# Runs of forecast models

A run with results deletes the forecasts of its plan version, scenario and model, whatever the
filters of the call, and inserts the results, in one transaction; a run without results deletes
nothing. The status is written after the transaction. So the stored forecasts of the filters are
the results, and the others stay, only where the old forecasts and the results lie inside the
filters and the status can be written.
-/

namespace Forecast.Forecasting

open KeyedTable Batches

abbrev Id := ℕ

structure ForecastKey where
  tenantId : Id
  planVersionId : Id
  scenarioId : Id
  forecastModel : String
deriving DecidableEq

structure StoredForecast where
  key : ForecastKey
  forecastRunId : Option Id
  forecast : AdjustedForecast

inductive JobStatus where
  | processing
  | completed
  | failed
deriving DecidableEq

structure ForecastRun where
  id : Id
  key : ForecastKey
  status : JobStatus
  errorMessage : Option String := none

structure ForecastTables where
  runs : List ForecastRun
  results : List (Id × AdjustedForecast)
  forecasts : List StoredForecast

/-- What the engine and the database answer to one run: the forecasts, and the errors of the
transaction and of the two updates of the status. -/
structure RunAnswers where
  rawForecasts : Except String (List RawForecast)
  transaction : Option String := none
  completion : Option String := none
  failure : Option String := none

structure GenerateCall where
  tenantId : Id
  planVersionId : Id
  scenarioId : Id
  isPersistent : Bool := true
  productIds : List String := []
  locationIds : List String := []
  customerIds : List String := []
  scenarioType : ScenarioType := .base
  externalSignals : List ExternalSignal := []
  startDate : Millis
  assumptions : List Assumption := []

def GenerateCall.key (call : GenerateCall) (modelName : String) : ForecastKey :=
  ⟨call.tenantId, call.planVersionId, call.scenarioId, modelName⟩

/-- An empty list of ids filters nothing. -/
def admits (ids : List String) (id : Option String) : Bool := ids = [] || id.any (· ∈ ids)

/-- The row lies inside the filters. -/
def GenerateCall.covers (call : GenerateCall) (dimensions : Dimensions) : Bool :=
  admits call.productIds dimensions.productId && admits call.locationIds dimensions.locationId &&
    admits call.customerIds dimensions.customerId

namespace ForecastTables

variable (s : ForecastTables)

/-- An id that is nowhere in the tables. -/
def freshRunId : Id :=
  freshId (s.runs.map ForecastRun.id ++ s.forecasts.filterMap StoredForecast.forecastRunId)

def setStatus (runId : Id) (status : JobStatus) (errorMessage : Option String := none) :
    ForecastTables :=
  { s with
    runs := s.runs.map fun run =>
      if run.id = runId then { run with status := status, errorMessage := errorMessage } else run }

/-- The transaction: the delete, and the inserts in batches of 500. -/
def replaceForecasts (runId : Id) (key : ForecastKey) (adjustedForecasts : List AdjustedForecast) :
    ForecastTables :=
  { s with
    results := s.results ++
      (slices 500 adjustedForecasts).flatMap fun batch => batch.map fun f => (runId, f)
    forecasts := s.forecasts.filter (fun row => row.key ≠ key) ++
      (slices 500 adjustedForecasts).flatMap fun batch =>
        batch.map (StoredForecast.mk key (some runId)) }

/-- The catch of a run; when its update fails too, the call ends. -/
def fail (runId : Id) (message : String) (answers : RunAnswers) : ForecastTables × JobStatus :=
  match answers.failure with
  | none => (s.setStatus runId .failed (some message), .failed)
  | some _ => (s, .processing)

end ForecastTables

variable (platform : ForecastPlatform) (call : GenerateCall)

def adjustedForecasts (rawForecasts : List RawForecast) : List AdjustedForecast :=
  rawForecasts.map
    (adjust platform call.scenarioType call.externalSignals call.startDate call.assumptions)

def runModel (modelName : String) (answers : RunAnswers) (s : ForecastTables) :
    ForecastTables × JobStatus :=
  let runId := s.freshRunId
  let created : ForecastTables :=
    { s with runs := s.runs ++ [⟨runId, call.key modelName, .processing, none⟩] }
  match answers.rawForecasts with
  | .error message => created.fail runId message answers
  | .ok rawForecasts =>
    let adjusted := adjustedForecasts platform call rawForecasts
    match if call.isPersistent ∧ adjusted ≠ [] then answers.transaction else none with
    | some message => created.fail runId message answers
    | none =>
      let stored :=
        if call.isPersistent ∧ adjusted ≠ [] then
          created.replaceForecasts runId (call.key modelName) adjusted
        else created
      match answers.completion with
      | some message => stored.fail runId message answers
      | none => (stored.setStatus runId .completed, .completed)

structure ModelRun where
  modelName : String
  answers : RunAnswers
  before : ForecastTables
  after : ForecastTables
  status : JobStatus

def generateForecasts : List (String × RunAnswers) → ForecastTables → List ModelRun
  | [], _ => []
  | (modelName, answers) :: models, s =>
    let (after, status) := runModel platform call modelName answers s
    ⟨modelName, answers, s, after, status⟩ ::
      if status = .processing then [] else generateForecasts models after

/-! ### The law -/

def GenerateCall.owns (call : GenerateCall) (modelName : String) (row : StoredForecast) : Bool :=
  row.key = call.key modelName && call.covers row.forecast.row.dimensions

structure RunLaw (run : ModelRun) : Prop where
  replaced : run.status = .completed → ∀ rawForecasts,
    run.answers.rawForecasts = .ok rawForecasts →
      ((run.after.forecasts.filter (call.owns run.modelName)).map StoredForecast.forecast).Perm
        (adjustedForecasts platform call rawForecasts)
  kept : run.status = .completed →
    (run.after.forecasts.filter fun row => !call.owns run.modelName row).Perm
      (run.before.forecasts.filter fun row => !call.owns run.modelName row)
  unchanged : run.status = .failed → run.after.forecasts = run.before.forecasts

/-- Without forecasts there is nothing to replace; else the old forecasts and the new ones lie
inside the filters and the run is completed, unless the transaction is refused or the status
stays as it is. -/
def RunFits (run : ModelRun) : Prop :=
  ∀ rawForecasts, run.answers.rawForecasts = .ok rawForecasts →
    if rawForecasts = [] then
      run.answers.completion = none →
        ∀ row ∈ run.before.forecasts, call.owns run.modelName row = false
    else run.answers.transaction = none →
      if run.answers.completion = none then
        (∀ row ∈ run.before.forecasts, row.key = call.key run.modelName →
          call.covers row.forecast.row.dimensions) ∧
        ∀ f ∈ rawForecasts, call.covers f.dimensions
      else run.answers.failure ≠ none

section Replacement

variable {call} {s : ForecastTables} {modelName : String} {runId : Id}
  {adjusted : List AdjustedForecast}

theorem forecasts_replaceForecasts (key : ForecastKey) :
    (s.replaceForecasts runId key adjusted).forecasts =
      s.forecasts.filter (fun row => row.key ≠ key) ++ adjusted.map (StoredForecast.mk key (some runId)) := by
  simp only [ForecastTables.replaceForecasts, List.flatMap_def, ← List.map_flatten,
    flatten_slices]

theorem replaced_kept_iff {old after : List StoredForecast}
    (hafter : after = old.filter (fun row => row.key ≠ call.key modelName) ++
      adjusted.map (StoredForecast.mk (call.key modelName) (some runId))) :
    (((after.filter (call.owns modelName)).map StoredForecast.forecast).Perm adjusted ∧
      (after.filter fun row => !call.owns modelName row).Perm
        (old.filter fun row => !call.owns modelName row)) ↔
      (∀ row ∈ old, row.key = call.key modelName →
        call.covers row.forecast.row.dimensions) ∧
      ∀ f ∈ adjusted, call.covers f.row.dimensions := by
  constructor
  · rintro ⟨hreplaced, hkept⟩
    have hcovered : ∀ f ∈ adjusted, call.covers f.row.dimensions := by
      intro f hf
      obtain ⟨row, hrow, rfl⟩ := List.mem_map.1 (hreplaced.mem_iff.2 hf)
      have howns := (List.mem_filter.1 hrow).2
      rw [GenerateCall.owns, Bool.and_eq_true] at howns
      exact howns.2
    refine ⟨fun row hrow hkey => ?_, hcovered⟩
    by_contra hout
    have hmem : row ∈ after.filter fun row => !call.owns modelName row :=
      hkept.mem_iff.2 (List.mem_filter.2 ⟨hrow, by simp [GenerateCall.owns, hout]⟩)
    have hrow' := (List.mem_filter.1 hmem).1
    rw [hafter, List.mem_append] at hrow'
    rcases hrow' with hold | hnew
    · simpa [hkey] using (List.mem_filter.1 hold).2
    · obtain ⟨f, hf, rfl⟩ := List.mem_map.1 hnew
      exact hout (hcovered f hf)
  · rintro ⟨hold, hnew⟩
    have hothers : (old.filter fun row => row.key ≠ call.key modelName).filter
        (call.owns modelName) = [] := by
      refine List.filter_eq_nil_iff.2 fun row hrow => ?_
      have hkey := (List.mem_filter.1 hrow).2
      simp only [decide_eq_true_eq] at hkey
      simp [GenerateCall.owns, hkey]
    have hall : ∀ row ∈ adjusted.map (StoredForecast.mk (call.key modelName) (some runId)),
        call.owns modelName row = true := by
      intro row hrow
      obtain ⟨f, hf, rfl⟩ := List.mem_map.1 hrow
      simp [GenerateCall.owns, hnew f hf]
    constructor
    · rw [hafter, List.filter_append, hothers, List.filter_eq_self.2 hall, List.nil_append,
        List.map_map]
      exact List.Perm.of_eq (List.map_id _)
    · rw [hafter, List.filter_append, List.filter_filter, (List.filter_eq_nil_iff (l :=
        adjusted.map (StoredForecast.mk (call.key modelName) (some runId)))).2 fun row hrow => by
          simp [hall row hrow], List.append_nil]
      refine List.Perm.of_eq (List.filter_congr fun row hrow => ?_)
      by_cases hkey : row.key = call.key modelName
      · simp [GenerateCall.owns, hkey, hold row hrow hkey]
      · simp [GenerateCall.owns, hkey]

/-- A run with results leaves rows that were not there. -/
theorem forecasts_replaceForecasts_ne (hne : adjusted ≠ []) (runs : List ForecastRun)
    (key : ForecastKey) :
    ({ s with runs := runs }.replaceForecasts s.freshRunId key adjusted).forecasts ≠
      s.forecasts := by
  obtain ⟨f, rest, rfl⟩ := List.exists_cons_of_ne_nil hne
  intro heq
  have hmem : (⟨key, some s.freshRunId, f⟩ : StoredForecast) ∈ s.forecasts := by
    rw [← heq, forecasts_replaceForecasts]
    simp
  refine freshId_not_mem (s.runs.map ForecastRun.id ++
    s.forecasts.filterMap StoredForecast.forecastRunId) (List.mem_append_right _ ?_)
  exact List.mem_filterMap.2 ⟨_, hmem, rfl⟩

end Replacement

theorem forecasts_fail (s : ForecastTables) (runId : Id) (message : String)
    (answers : RunAnswers) : (s.fail runId message answers).1.forecasts = s.forecasts := by
  unfold ForecastTables.fail
  split <;> rfl

theorem status_fail (s : ForecastTables) (runId : Id) (message : String) (answers : RunAnswers) :
    (s.fail runId message answers).2 =
      if answers.failure = none then .failed else .processing := by
  unfold ForecastTables.fail
  cases answers.failure <;> rfl

theorem runLaw_of_unchanged {run : ModelRun} (hafter : run.after.forecasts = run.before.forecasts)
    (hstatus : run.status ≠ .completed) : RunLaw platform call run :=
  ⟨fun h => absurd h hstatus, fun h => absurd h hstatus, fun _ => hafter⟩

theorem status_fail_ne (s : ForecastTables) (runId : Id) (message : String)
    (answers : RunAnswers) : (s.fail runId message answers).2 ≠ .completed := by
  rw [status_fail]
  split_ifs <;> decide

theorem runLaw_iff (hpersistent : call.isPersistent = true) {run : ModelRun}
    (hrun : runModel platform call run.modelName run.answers run.before =
      (run.after, run.status)) : RunLaw platform call run ↔ RunFits call run := by
  obtain ⟨modelName, answers, s, after, status⟩ := run
  dsimp only at hrun
  cases hraw : answers.rawForecasts with
  | error message =>
    simp only [runModel, hraw] at hrun
    refine iff_of_true (runLaw_of_unchanged platform call ?_ ?_) ?_
    · exact (congrArg (·.1.forecasts) hrun).symm.trans (forecasts_fail ..)
    · exact fun h => status_fail_ne _ _ _ _ ((congrArg Prod.snd hrun).trans h)
    · intro rawForecasts h
      rw [hraw] at h
      cases h
  | ok rawForecasts =>
    have hfits : RunFits call ⟨modelName, answers, s, after, status⟩ ↔
        if rawForecasts = [] then
          answers.completion = none → ∀ row ∈ s.forecasts, call.owns modelName row = false
        else answers.transaction = none →
          if answers.completion = none then
            (∀ row ∈ s.forecasts, row.key = call.key modelName →
              call.covers row.forecast.row.dimensions) ∧
            ∀ f ∈ rawForecasts, call.covers f.dimensions
          else answers.failure ≠ none := by
      simp [RunFits, hraw]
    rw [hfits]
    by_cases hempty : rawForecasts = []
    · subst hempty
      rw [if_pos rfl]
      simp only [runModel, hraw, adjustedForecasts, List.map_nil, ne_eq, not_true_eq_false,
        and_false, if_false] at hrun
      cases hcompletion : answers.completion with
      | some message =>
        rw [hcompletion] at hrun
        refine iff_of_true (runLaw_of_unchanged platform call ?_ ?_) (by simp)
        · exact (congrArg (·.1.forecasts) hrun).symm.trans (forecasts_fail ..)
        · exact fun h => status_fail_ne _ _ _ _ ((congrArg Prod.snd hrun).trans h)
      | none =>
        simp only [hcompletion, Prod.mk.injEq] at hrun
        obtain ⟨rfl, rfl⟩ := hrun
        constructor
        · intro h _ row hrow
          have hperm := h.replaced rfl [] hraw
          by_contra howns
          have hmem := hperm.mem_iff.1 (List.mem_map_of_mem
            (List.mem_filter.2 ⟨hrow, Bool.eq_true_of_not_eq_false howns⟩))
          cases hmem
        · intro h
          refine ⟨fun _ raw' hraw' => ?_, fun _ => List.Perm.refl _, by simp⟩
          obtain rfl := Except.ok.inj (hraw.symm.trans hraw')
          refine List.Perm.of_eq (List.map_eq_nil_iff.2 (List.filter_eq_nil_iff.2 ?_))
          exact fun row hrow => by simp [h rfl row hrow]
    · have hadjusted : adjustedForecasts platform call rawForecasts ≠ [] := by
        simpa [adjustedForecasts] using hempty
      rw [if_neg hempty]
      simp only [runModel, hraw, hpersistent, ne_eq, hadjusted, not_false_eq_true, and_true,
        if_true] at hrun
      cases htransaction : answers.transaction with
      | some message =>
        rw [htransaction] at hrun
        refine iff_of_true (runLaw_of_unchanged platform call ?_ ?_) (by simp)
        · exact (congrArg (·.1.forecasts) hrun).symm.trans (forecasts_fail ..)
        · exact fun h => status_fail_ne _ _ _ _ ((congrArg Prod.snd hrun).trans h)
      | none =>
        rw [htransaction] at hrun
        cases hcompletion : answers.completion with
        | some message =>
          rw [hcompletion] at hrun
          have hchanged : after.forecasts ≠ s.forecasts := by
            rw [← (congrArg (·.1.forecasts) hrun : _ = after.forecasts), forecasts_fail]
            exact forecasts_replaceForecasts_ne hadjusted _ _
          have hstatus := (congrArg Prod.snd hrun).symm.trans (status_fail ..)
          simp only [reduceCtorEq, if_false, forall_const]
          constructor
          · intro h hfailure
            rw [if_pos hfailure] at hstatus
            exact hchanged (h.unchanged hstatus)
          · intro hfailure
            rw [if_neg hfailure] at hstatus
            exact ⟨fun h => absurd (hstatus.symm.trans h) (by decide),
              fun h => absurd (hstatus.symm.trans h) (by decide),
              fun h => absurd (hstatus.symm.trans h) (by decide)⟩
        | none =>
          simp only [hcompletion, Prod.mk.injEq] at hrun
          obtain ⟨rfl, rfl⟩ := hrun
          have hiff := replaced_kept_iff (@forecasts_replaceForecasts
            { s with runs := s.runs ++ [⟨s.freshRunId, call.key modelName, .processing, none⟩] }
            s.freshRunId (adjustedForecasts platform call rawForecasts) (call.key modelName))
          have hcovers : (∀ f ∈ adjustedForecasts platform call rawForecasts,
              call.covers f.row.dimensions) ↔ ∀ f ∈ rawForecasts, call.covers f.dimensions := by
            simp [adjustedForecasts, adjust]
          simp only [forall_const, if_true, ← hcovers]
          refine Iff.trans ⟨fun h => ?_, fun h => ?_⟩ hiff
          · exact ⟨h.replaced rfl _ hraw, h.kept rfl⟩
          · refine ⟨fun _ raw' hraw' => ?_, fun _ => h.2, by simp⟩
            obtain rfl := Except.ok.inj (hraw.symm.trans hraw')
            exact h.1

theorem runModel_of_mem {models : List (String × RunAnswers)} {s : ForecastTables}
    {run : ModelRun} (h : run ∈ generateForecasts platform call models s) :
    runModel platform call run.modelName run.answers run.before = (run.after, run.status) := by
  induction models generalizing s with
  | nil => cases h
  | cons model models ih =>
    rw [generateForecasts] at h
    rcases List.mem_cons.1 h with rfl | h
    · rfl
    · split_ifs at h
      · cases h
      · exact ih h

/-- The runs of a persistent call keep the law when and only when each of them fits. -/
theorem runLaw_iff_runFits (hpersistent : call.isPersistent = true)
    (models : List (String × RunAnswers)) (s : ForecastTables) :
    (∀ run ∈ generateForecasts platform call models s, RunLaw platform call run) ↔
      ∀ run ∈ generateForecasts platform call models s, RunFits call run :=
  forall₂_congr fun _ h => runLaw_iff platform call hpersistent (runModel_of_mem platform call h)

def ofProduct (productId : String) : RawForecast := ⟨0, { productId := some productId }, 10, none, none, none⟩

def onlyP : GenerateCall where
  tenantId := 1
  planVersionId := 2
  scenarioId := 3
  productIds := ["P"]
  startDate := 0

def forecastOf (productId : String) : ForecastTables where
  runs := []
  results := []
  forecasts := [⟨onlyP.key "ARIMA", none, adjust plainServer .base [] 0 [] (ofProduct productId)⟩]

theorem runLaw_replaced :
    (generateForecasts plainServer onlyP [("ARIMA", { rawForecasts := .ok [ofProduct "P"] })]
      (forecastOf "P")).Forall (RunLaw plainServer onlyP) := by
  rw [List.forall_iff_forall_mem]
  refine (runLaw_iff_runFits plainServer onlyP rfl _ _).2 fun run hrun => ?_
  rw [List.mem_singleton.1 hrun]
  intro rawForecasts hraw
  obtain rfl := Except.ok.inj hraw
  decide +kernel

/-- The run for one product deletes the forecast of another. -/
theorem not_runLaw_otherProduct :
    ¬∀ run ∈ generateForecasts plainServer onlyP
      [("ARIMA", { rawForecasts := .ok [ofProduct "P"] })] (forecastOf "Q"),
        RunLaw plainServer onlyP run := by
  intro h
  have hkept := ((h _ (List.mem_singleton_self _)).kept (by decide +kernel)).length_eq
  revert hkept
  decide +kernel

end Forecast.Forecasting
