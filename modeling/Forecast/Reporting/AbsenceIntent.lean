import Forecast.Reporting.QueryValidator

/-!
# Questions about what did not sell

A question about absence is answered from the item velocity dataset, by one of three predicates. A
report on that dataset keeps its other filters; a report on another dataset, or a question that was
given up, makes room for a new report. A report that has one predicate with the right id counts as
repaired, whatever the operator and the value of the predicate.
-/

namespace Forecast.Reporting

open JsText (trim)

/-- The regular expressions of the language, each by its source. `groups` is what a first match
captures. -/
structure RegExps where
  toLowerCase : String → String
  test : (pattern text : String) → Bool
  groups : (pattern text : String) → Option (List String)
  replaceAll : (pattern replacement text : String) → String

structure RankingIntent where
  direction : String
  limit : Option ℕ
  noun : Option String

/-- A report as the language model gives it; a missing list is read as empty. -/
structure ParsedReport where
  title : String
  input : ReportInput
  visualization : Option String
  assumptions : List String
  followUpQuestions : List String

inductive ParsedQuery where
  | report (query : ParsedReport)
  | dashboard (input : DashboardInput)
  | clarification (reason : String)
  | unsupported (title : Option String)

def descWords : String := "\\b(top|best|highest|largest|biggest|leading|most|maximum)\\b"

def ascWords : String := "\\b(bottom|worst|lowest|least|smallest|minimum)\\b"

def rankingLimitPattern : String :=
  "\\b(?:top|bottom|best|worst|highest|lowest|largest|biggest|first)\\s+(\\d\x7b1,3\x7d)\\b"

def nounPatterns : List String :=
  ["\\b(?:top|bottom|best|worst|highest|lowest|largest|biggest|leading)\\s+(?:\\d\x7b1,3\x7d\\s+)?(?:performing\\s+|selling\\s+|profitable\\s+|growing\\s+|moving\\s+)?([a-z][a-z _-]\x7b1,40\x7d?)\\s+(?:with|by|in|on|of|for|across|based|this|last|that|whose|where|having|contributing)\\b",
    "\\b([a-z][a-z _-]\x7b1,40\x7d?)\\s+(?:with|having|by)\\s+(?:the\\s+)?(?:most|highest|lowest|least|largest|smallest|best|worst|maximum|minimum|top)\\b",
    "\\b([a-z][a-z _-]\x7b1,40\x7d?)\\s+(?:contributing|generating|producing|driving)\\s+(?:the\\s+)?(?:highest|most|lowest|least)\\b",
    "\\bmost\\s+(?:profitable|sold|selling|purchased|valuable|active|moving)\\s+([a-z][a-z _-]\x7b1,40\x7d?)(?:\\s|$)",
    "\\b(?:top|bottom|best|worst|highest|lowest|largest|biggest|leading)\\s+(?:\\d\x7b1,3\x7d\\s+)?(?:performing\\s+|selling\\s+|profitable\\s+|growing\\s+|moving\\s+)?([a-z][a-z _-]\x7b1,40\x7d)$"]

def absencePattern : String :=
  "\\b(not (been )?(sold|selling|moving)|never (been )?sold|no sales|without (any )?sales|non[ -]?moving|dead stock|slow[ -]?moving|idle (item|items|stock|product|products)|stale stock|not been sold)\\b"

def windowPattern : String :=
  "\\b(?:last|past|in|within|over)\\s+(\\d\x7b1,4\x7d)\\s+(day|days|week|weeks|month|months|year|years)\\b"

/-- `Number` of digits. -/
def digits (text : String) : ℕ := text.toNat?.getD 0

variable (re : RegExps)

def normalize (value : String) : String :=
  trim (re.replaceAll "\\s+" " " (re.replaceAll "[^a-z0-9\\s_-]" " " (re.toLowerCase value)))

def detectRankingIntent (question : String) : Option RankingIntent :=
  let text := normalize re question
  if !re.test descWords text && !re.test ascWords text then none
  else some
    { direction := if re.test ascWords text then "asc" else "desc"
      limit := (((re.groups rankingLimitPattern text).bind List.head?).map digits).filter fun n =>
        1 ≤ n ∧ n ≤ 500
      noun := (nounPatterns.findSome? fun pattern =>
        ((re.groups pattern text).bind List.head?).filter (· ≠ "")).map trim }

def detectAbsenceIntent (question : String) : Bool :=
  re.test absencePattern (normalize re question)

def parseNotSoldWindow (text : String) : Option ℕ :=
  match re.groups windowPattern text with
  | some [count, unit] =>
    let n := digits count
    if n < 1 then none
    else if "day".toList.isPrefixOf unit.toList then some n
    else if "week".toList.isPrefixOf unit.toList then some (n * 7)
    else if "month".toList.isPrefixOf unit.toList then some (n * 30)
    else some (n * 365)
  | _ => none

def namedPeriodDays (text : String) : Option ℕ :=
  if re.test "\\b(yesterday|today)\\b" text then some 1
  else if re.test "\\bthis week\\b" text then some 7
  else if re.test "\\bthis month\\b" text then some 30
  else if re.test "\\bthis quarter\\b" text then some 90
  else none

def absenceFilterIds : List String :=
  ["never_sold_filter", "days_since_last_sold_filter", "movement_status_filter"]

def buildAbsenceFilter (text : String) : SemanticFilter String :=
  if re.test "\\bnever\\b|\\bnot been sold\\b|\\bno sales\\b" text then
    ⟨some "never_sold_filter", none, "=", .bool true⟩
  else
    match (parseNotSoldWindow re text).or (namedPeriodDays re text) with
    | some windowDays => ⟨some "days_since_last_sold_filter", none, ">=", .number windowDays⟩
    | none => ⟨some "movement_status_filter", none, "IN",
        .list [.text "NEVER_SOLD", .text "NON_MOVING", .text "SLOW_MOVING"]⟩

def absenceAssumption (filter : SemanticFilter String) : String :=
  match filter.value with
  | .bool _ => "Interpreted as items that have never been sold, from the item master."
  | .number n =>
    "Interpreted as items not sold in the last " ++ toString n.num ++
      " day(s), from the item master."
  | _ => "Interpreted as non-moving / not-recently-sold items, from the item master."

def isAbsence (filter : SemanticFilter String) : Bool := filter.filterId.any (· ∈ absenceFilterIds)

def sortBy (metricId columnId : Option String) (direction : String) : SemanticSort :=
  ⟨metricId, none, columnId, none, none, direction⟩

/-- The report that takes the place of one on another dataset. -/
def reroute (question : String) (title : Option String) : ParsedReport :=
  let text := normalize re question
  let filter := buildAbsenceFilter re text
  let ranking := detectRankingIntent re question
  let base : ReportInput :=
    { templateId := none
      datasetId := "item_velocity"
      mode := some .detail
      analysisType := some .exceptionList
      metrics := some []
      dimensions := []
      displayColumns := ["velocity_product_name", "velocity_product_code",
        "velocity_last_sold_date", "velocity_days_since_last_sold", "velocity_current_stock",
        "velocity_movement_status"]
      filters := [filter]
      timeRange := some ⟨some .unspecified, none, none, none⟩
      comparison := some ⟨false, .none, none, none, false⟩
      sort := [sortBy none (some "velocity_days_since_last_sold") "desc"]
      limit := some 100 }
  let report := fun input visualization =>
    ⟨title.getD "Item velocity", input, some visualization,
      [absenceAssumption filter, "Routed to the item velocity (non-moving) dataset."], []⟩
  if re.test "\\b(how many|number of|count of|count)\\b" text then
    report
      { base with
        mode := some .kpi
        analysisType := some .groupedSummary
        metrics := some ["idle_item_count"]
        displayColumns := []
        sort := [sortBy (some "idle_item_count") none "desc"]
        limit := some 1 } "kpi"
  else if (ranking.bind RankingIntent.noun).any (· ≠ "") ||
      re.test "\\b(top|bottom|most|least|longest|highest|lowest)\\b" text then
    report
      { base with
        mode := some .ranking
        analysisType := some .ranking
        metrics := some ["max_days_since_last_sold"]
        dimensions := ["velocity_product"]
        displayColumns := []
        sort := [sortBy (some "max_days_since_last_sold") none
          (ranking.elim "desc" RankingIntent.direction)]
        limit := some ((ranking.bind RankingIntent.limit).getD 10) } "bar"
  else report base "table"

def offersVelocity (catalog : SemanticCatalog) : Bool :=
  catalog.datasets.any fun d => d.datasetId = "item_velocity" && d.allowedForNlq

def repairAbsenceIntent (question : String) (query : ParsedQuery) (catalog : SemanticCatalog) :
    ParsedQuery :=
  if !offersVelocity catalog || !detectAbsenceIntent re question then query
  else
    match query with
    | .report report =>
      if report.input.datasetId = "item_velocity" then
        let absenceFilter := buildAbsenceFilter re (normalize re question)
        let existing := report.input.filters
        let nonAbsence := existing.filter fun f => !isAbsence f
        if existing.length = nonAbsence.length + 1 ∧
            existing.any (fun f => f.filterId = absenceFilter.filterId) then query
        else .report
          { report with
            input := { report.input with filters := absenceFilter :: nonAbsence }
            assumptions := report.assumptions ++ [absenceAssumption absenceFilter] }
      else .report (reroute re question (some report.title))
    | .unsupported title => .report (reroute re question title)
    | .dashboard _ | .clarification _ => query

/-! ### The law -/

def ParsedQuery.filters : ParsedQuery → List (SemanticFilter String)
  | .report query => query.input.filters
  | _ => []

def ParsedQuery.isVelocity : ParsedQuery → Bool
  | .report query => query.input.datasetId = "item_velocity"
  | _ => false

def ParsedQuery.isReroutable : ParsedQuery → Bool
  | .report query => query.input.datasetId ≠ "item_velocity"
  | .unsupported _ => true
  | _ => false

section Law

variable (question : String) (query : ParsedQuery) (catalog : SemanticCatalog)

/-- The predicate that the question asks for. -/
def wantedFilter : SemanticFilter String := buildAbsenceFilter re (normalize re question)

/-- The only absence predicate has the id of the wanted one and another operator or value. -/
def TakenForWanted : Prop :=
  ∃ f, query.filters.filter isAbsence = [f] ∧ f.filterId = (wantedFilter re question).filterId ∧
    f ≠ wantedFilter re question

def IsRecognised : Prop := offersVelocity catalog ∧ detectAbsenceIntent re question

/-- A report on the dataset gets the predicate and keeps its other filters, another report and a
question that was given up become a report with the predicate, and nothing else changes. -/
structure AbsenceLaw : Prop where
  repaired : IsRecognised re question catalog → query.isVelocity →
    ¬TakenForWanted re question query →
      (repairAbsenceIntent re question query catalog).filters.filter isAbsence =
        [wantedFilter re question] ∧
      ((repairAbsenceIntent re question query catalog).filters.filter fun f => !isAbsence f) =
        query.filters.filter fun f => !isAbsence f
  rerouted : IsRecognised re question catalog → query.isReroutable →
    (repairAbsenceIntent re question query catalog).filters = [wantedFilter re question]
  untouched : ¬(IsRecognised re question catalog ∧ (query.isVelocity ∨ query.isReroutable)) →
    repairAbsenceIntent re question query catalog = query
  again : repairAbsenceIntent re question (repairAbsenceIntent re question query catalog) catalog =
    repairAbsenceIntent re question query catalog

end Law

section Repair

variable {re} {question : String} {report : ParsedReport} {catalog : SemanticCatalog}
  {rest : List (SemanticFilter String)}

theorem isAbsence_wantedFilter : isAbsence (wantedFilter re question) = true := by
  unfold wantedFilter buildAbsenceFilter
  split
  · rfl
  · split <;> rfl

/-- A report with the wanted predicate in front of others stays. -/
theorem repairAbsenceIntent_of_repaired (hdataset : report.input.datasetId = "item_velocity")
    (hfilters : report.input.filters = wantedFilter re question :: rest)
    (hrest : ∀ f ∈ rest, isAbsence f = false) :
    repairAbsenceIntent re question (.report report) catalog = .report report := by
  have hkept : ((wantedFilter re question :: rest).filter fun f => !isAbsence f) = rest := by
    rw [List.filter_cons_of_neg (by simp [isAbsence_wantedFilter]), List.filter_eq_self]
    simpa using hrest
  unfold repairAbsenceIntent
  split
  · rfl
  · dsimp only
    rw [if_pos hdataset, hfilters, hkept, if_pos]
    exact ⟨rfl, by simp [wantedFilter]⟩

theorem filter_isAbsence_eq (hlength : report.input.filters.length =
      (report.input.filters.filter fun f => !isAbsence f).length + 1)
    (hmem : ∃ f ∈ report.input.filters, f.filterId = (wantedFilter re question).filterId)
    (hnot : ¬TakenForWanted re question (.report report)) :
    report.input.filters.filter isAbsence = [wantedFilter re question] := by
  obtain ⟨f, hf⟩ : ∃ f, report.input.filters.filter isAbsence = [f] := by
    rw [← List.length_eq_one_iff]
    have hsplit := List.length_eq_length_filter_add (l := report.input.filters) isAbsence
    omega
  obtain ⟨g, hg, hid⟩ := hmem
  have habsent : isAbsence g = true := by
    rw [isAbsence, hid]
    exact @isAbsence_wantedFilter re question
  have hgf : g = f := by
    have hmem := List.mem_filter.2 ⟨hg, habsent⟩
    rwa [hf, List.mem_singleton] at hmem
  rw [hf, List.cons.injEq]
  by_contra hne
  exact hnot ⟨f, hf, hgf ▸ hid, fun heq => hne ⟨heq, rfl⟩⟩

end Repair

theorem absenceLaw (question : String) (query : ParsedQuery) (catalog : SemanticCatalog) :
    AbsenceLaw re question query catalog := by
  by_cases hrecognised : IsRecognised re question catalog
  swap
  · have hsame : ∀ q, repairAbsenceIntent re question q catalog = q := by
      intro q
      unfold repairAbsenceIntent
      rw [if_pos]
      rw [IsRecognised, not_and_or] at hrecognised
      simpa using hrecognised
    exact ⟨fun h => absurd h hrecognised, fun h => absurd h hrecognised, fun _ => hsame _,
      by rw [hsame, hsame]⟩
  have hoffered : (!offersVelocity catalog || !detectAbsenceIntent re question) ≠ true := by
    simp [hrecognised.1, hrecognised.2]
  have hreroute : ∀ title, repairAbsenceIntent re question (.report (reroute re question title))
      catalog = .report (reroute re question title) := by
    intro title
    apply @repairAbsenceIntent_of_repaired re question _ _ [] _ _ (by simp) <;>
      (unfold reroute; dsimp only; split_ifs <;> rfl)
  have hfilters : ∀ title, (reroute re question title).input.filters =
      [wantedFilter re question] := by
    intro title
    unfold reroute
    dsimp only
    split_ifs <;> rfl
  cases query with
  | dashboard input =>
    refine ⟨fun _ h => Bool.noConfusion h, fun _ h => Bool.noConfusion h, fun _ => ?_, ?_⟩ <;>
      simp [repairAbsenceIntent]
  | clarification reason =>
    refine ⟨fun _ h => Bool.noConfusion h, fun _ h => Bool.noConfusion h, fun _ => ?_, ?_⟩ <;>
      simp [repairAbsenceIntent]
  | unsupported title =>
    have hresult : repairAbsenceIntent re question (.unsupported title) catalog =
        .report (reroute re question title) := if_neg hoffered
    exact ⟨fun _ h => Bool.noConfusion h, fun _ _ => by rw [hresult]; exact hfilters title,
      fun h => absurd ⟨hrecognised, .inr rfl⟩ h, by rw [hresult, hreroute]⟩
  | report report =>
    by_cases hdataset : report.input.datasetId = "item_velocity"
    · by_cases hok : report.input.filters.length =
            (report.input.filters.filter fun f => !isAbsence f).length + 1 ∧
          report.input.filters.any fun f => f.filterId = (wantedFilter re question).filterId
      · have hresult : repairAbsenceIntent re question (.report report) catalog =
            .report report := by
          unfold repairAbsenceIntent
          rw [if_neg hoffered]
          dsimp only
          rw [if_pos hdataset]
          exact if_pos hok
        refine ⟨fun _ _ hnot => ?_, fun _ h => absurd hdataset (of_decide_eq_true h),
          fun _ => hresult, by rw [hresult, hresult]⟩
        rw [hresult]
        exact ⟨filter_isAbsence_eq hok.1 (by simpa using hok.2) hnot, rfl⟩
      · have hresult : repairAbsenceIntent re question (.report report) catalog =
            .report
              { report with
                input :=
                  { report.input with
                    filters := wantedFilter re question ::
                      report.input.filters.filter fun f => !isAbsence f }
                assumptions := report.assumptions ++
                  [absenceAssumption (wantedFilter re question)] } := by
          unfold repairAbsenceIntent
          rw [if_neg hoffered]
          dsimp only
          rw [if_pos hdataset]
          exact if_neg hok
        have hwanted := @isAbsence_wantedFilter re question
        refine ⟨fun _ _ _ => ?_, fun _ h => absurd hdataset (of_decide_eq_true h),
          fun h => absurd ⟨hrecognised, .inl (decide_eq_true hdataset)⟩ h, ?_⟩
        · rw [hresult]
          simp [ParsedQuery.filters, hwanted]
        · rw [hresult]
          exact repairAbsenceIntent_of_repaired hdataset rfl (by simp)
    · have hresult : repairAbsenceIntent re question (.report report) catalog =
          .report (reroute re question (some report.title)) := by
        unfold repairAbsenceIntent
        rw [if_neg hoffered]
        exact if_neg hdataset
      refine ⟨fun _ h => absurd (of_decide_eq_true h) hdataset, fun _ _ => ?_,
        fun h => absurd ⟨hrecognised, .inr (decide_eq_true hdataset)⟩ h, by rw [hresult, hreroute]⟩
      rw [hresult]
      exact hfilters _

/-- The expressions on the text of this question. -/
def deadStock : RegExps where
  toLowerCase text := text
  test pattern text := pattern = absencePattern && text = "dead stock"
  groups _ _ := none
  replaceAll _ _ text := text

def velocityCatalog : SemanticCatalog where
  datasets := [⟨"item_velocity", "vw_item_velocity", "inventory", true, [], [], [], [], []⟩]
  metrics := []
  dimensions := []
  filters := []
  timeFields := []
  displayColumns := []
  reportTemplates := []
  dashboardTemplates := []

def salesOfProduct : ParsedQuery :=
  .report ⟨"Sales", ⟨none, "sales_items", none, none, none, [], [],
    [⟨some "product_filter", none, "=", .text "P1"⟩], none, none, [], none⟩, none, [], []⟩

/-- The new report does not have the filter of the one on another dataset. -/
theorem not_keepsFilters_otherDataset :
    IsRecognised deadStock "dead stock" velocityCatalog ∧
      ((repairAbsenceIntent deadStock "dead stock" salesOfProduct velocityCatalog).filters.filter
        fun f => !isAbsence f) ≠ salesOfProduct.filters.filter fun f => !isAbsence f := by
  refine ⟨⟨by decide +kernel, by decide +kernel⟩, fun h => ?_⟩
  have hlength := congrArg List.length h
  revert hlength
  decide +kernel

end Forecast.Reporting
