import Forecast.Reporting.Numbering

/-!
# The rows that a report reads

A row is read when it passes the `WHERE` of one of the report's statements. Every placeholder is
run with its own value, in each of the three shapes, so each condition that was compiled is true
of the row with the values that it was written for.
-/

namespace Forecast.Reporting

open Placeholders Transactions

section Meaning

variable {Cell : Type} (engine : Engine Cell) (row : String → Cell)

/-- The predicate is true of a row, with the values that it was written for. -/
def Predicate.means : Predicate → Bool
  | compare column operator value _ => engine.compares (row column) operator value.builtFor
  | member column negated values _ => engine.isMember (row column) negated values.builtFor
  | between column low high _ => engine.isBetween (row column) low.builtFor high.builtFor
  | like column negated pattern => engine.isLike (row column) negated pattern.builtFor

def Condition.means : Condition → Bool
  | one p => p.means engine row
  | any ps => ps.any (Predicate.means engine row)
  | all ps => ps.all (Predicate.means engine row)

@[simp]
theorem Predicate.means_rebase (k : ℕ) (p : Predicate) :
    (p.rebase k).means engine row = p.means engine row := by
  cases p <;> rfl

@[simp]
theorem Condition.means_rebase (k : ℕ) (c : Condition) :
    (c.rebase k).means engine row = c.means engine row := by
  cases c <;> simp [rebase, means, Function.comp_def]

variable {engine row}

theorem Predicate.holds_eq_means {params : List Value} {p : Predicate}
    (h : ∀ hole ∈ p.holes, valueAt params hole.index = some hole.builtFor) :
    p.holds engine params row = p.means engine row := by
  cases p <;> simp only [holes, List.mem_cons, List.not_mem_nil, or_false, forall_eq,
    forall_eq_or_imp] at h <;> simp [holds, means, h]

theorem Condition.holds_eq_means {params : List Value} {c : Condition}
    (h : ∀ hole ∈ c.holes, valueAt params hole.index = some hole.builtFor) :
    c.holds engine params row = c.means engine row := by
  have hone : ∀ p ∈ c.predicates, p.holds engine params row = p.means engine row := by
    intro p hp
    apply Predicate.holds_eq_means
    intro hole hhole
    exact h hole (List.mem_flatMap.2 ⟨p, hp, hhole⟩)
  cases c with
  | one p => exact hone p List.mem_cons_self
  | any ps =>
    rw [Bool.eq_iff_iff]
    simp only [holds, means, List.any_eq_true]
    exact exists_congr fun p => and_congr_right fun hp => by rw [hone p hp]
  | all ps =>
    rw [Bool.eq_iff_iff]
    simp only [holds, means, List.all_eq_true]
    exact forall₂_congr fun p hp => by rw [hone p hp]

theorem Statement.means_of_passes {params : List Value} {s : Statement}
    (hbound : ∀ hole ∈ s.holes, valueAt params hole.index = some hole.builtFor)
    (h : s.passes engine params row = true) {c : Condition} (hc : c ∈ s.conditions) :
    c.means engine row = true := by
  rw [← Condition.holds_eq_means]
  · exact List.all_eq_true.1 h c hc
  · intro hole hhole
    exact hbound hole (List.mem_append_left _ (List.mem_flatMap.2 ⟨c, hc, hhole⟩))

end Meaning

theorem Report.mem_holes {r : Report} {s : Statement} (hs : s ∈ r.statements) {hole : Hole}
    (h : hole ∈ s.holes) : hole ∈ r.holes := by
  cases r with
  | plain s' =>
    obtain rfl := List.mem_singleton.1 hs
    exact h
  | comparison current previous =>
    rw [statements, List.mem_cons, List.mem_singleton] at hs
    rcases hs with rfl | rfl
    · exact List.mem_append_left _ h
    · exact List.mem_append_right _ h
  | changeRanking current previous keys metrics ascending limit =>
    rw [statements, List.mem_cons, List.mem_singleton] at hs
    rcases hs with rfl | rfl
    · exact List.mem_append_left _ (List.mem_append_left _ h)
    · exact List.mem_append_left _ (List.mem_append_right _ h)

section Compiled

variable {catalog : SemanticCatalog} {today : ℤ} {dataset : CatalogDataset}
variable {query : SemanticReportQuery} {security : ReportingSecurityContext}
variable {Cell : Type} {engine : Engine Cell} {row : String → Cell}

/-- What a row that is read has passed: every condition of one compiled statement over the
filters of the query. -/
theorem exists_statement_of_reads {compiled : CompiledSql}
    (h : compile catalog today query security = .ok compiled)
    (hread : compiled.reads engine row = true) :
    ∃ dataset period one, catalog.getDataset query.datasetId = some dataset ∧
      period.filters = query.filters ∧
      compileStatement catalog today period dataset security = .ok one ∧
      ∀ c ∈ one.statement.conditions, c.means engine row = true := by
  obtain ⟨dataset, hdataset, hfrom⟩ := compile_cases h
  have hbound := (numbered_compile h).bound
  obtain ⟨s, hs, hpasses⟩ := List.any_eq_true.1 hread
  have hmeans : ∀ c ∈ s.conditions, c.means engine row = true := by
    intro c hc
    refine Statement.means_of_passes (fun hole hhole => hbound hole ?_) hpasses hc
    exact Report.mem_holes hs hhole
  -- the statement of the other period has the conditions of its own, raised
  have hraised : ∀ {k : ℕ} {s' : Statement}, s = s'.rebase k →
      ∀ c ∈ s'.conditions, c.means engine row = true := by
    rintro k s' rfl c hc
    rw [← c.means_rebase engine row k]
    exact hmeans _ (List.mem_map_of_mem hc)
  cases hfrom with
  | plain one _ hone hreport _ =>
    rw [hreport, Report.statements, List.mem_singleton] at hs
    exact ⟨dataset, query, one, hdataset, rfl, hone, hs ▸ hmeans⟩
  | comparison comparison range range' current previous _ _ hcurrent hprevious hreport _ =>
    rw [hreport, Report.statements, List.mem_cons, List.mem_singleton] at hs
    rcases hs with hs | hs
    · exact ⟨dataset, query.during range, current, hdataset, rfl, hcurrent, hs ▸ hmeans⟩
    · exact ⟨dataset, query.during range', previous, hdataset, rfl, hprevious, hraised hs⟩
  | changeRanking comparison range range' current previous _ _ _ hcurrent hprevious hreport _ =>
    rw [hreport, Report.statements, List.mem_cons, List.mem_singleton] at hs
    rcases hs with hs | hs
    · exact ⟨dataset, query.aggregated.during range, current, hdataset, rfl, hcurrent,
        hs ▸ hmeans⟩
    · exact ⟨dataset, query.aggregated.during range', previous, hdataset, rfl, hprevious,
        hraised hs⟩

theorem conditions_compileStatement {one : CompiledStatement}
    (h : compileStatement catalog today query dataset security = .ok one) :
    (∃ scope applied, addSecurityFilters dataset query.filters security = .ok (scope, applied) ∧
      ∀ c ∈ scope.conditions, c ∈ one.statement.conditions) ∧
    ∀ filter ∈ query.filters, ∃ params condition params',
      compileFilter catalog today dataset filter params = .ok (condition, params') ∧
        ∀ c ∈ condition, c ∈ one.statement.conditions := by
  simp only [compileStatement, compileWhere, bind_eq_ok, pure_eq_ok] at h
  obtain ⟨⟨clause, applied⟩, ⟨⟨scope, applied'⟩, hscope, filtered, hfiltered, dated, hdated,
    hwhere⟩, selection, -, view, -, orderBy, -, h⟩ := h
  cases hwhere
  cases h
  have hdate : ∀ c ∈ filtered.conditions, c ∈ clause.conditions := by
    intro c hc
    simp only [addDateFilter] at hdated
    split_ifs at hdated
    · cases hdated
      exact hc
    · split at hdated
      · cases hdated
        exact hc
      · simp only [bind_eq_ok, pure_eq_ok] at hdated
        obtain ⟨column, -, hdated⟩ := hdated
        cases hdated
        exact List.mem_append_left _ hc
  have hgrow : ∀ {filters : List (SemanticFilter Operator)} {clause₁ clause₂ : WhereClause},
      forEach (addFilter catalog today dataset) clause₁ filters = .ok clause₂ →
      (∀ c ∈ clause₁.conditions, c ∈ clause₂.conditions) ∧
      ∀ filter ∈ filters, ∃ params condition params',
        compileFilter catalog today dataset filter params = .ok (condition, params') ∧
          ∀ c ∈ condition, c ∈ clause₂.conditions := by
    intro filters clause₁ clause₂ hloop
    induction filters generalizing clause₁ with
    | nil =>
      cases hloop
      exact ⟨fun c hc => hc, by simp⟩
    | cons filter filters ih =>
      obtain ⟨clause₃, hstep, hloop⟩ := forEach_cons_eq_ok.1 hloop
      simp only [addFilter, bind_eq_ok, pure_eq_ok] at hstep
      obtain ⟨⟨condition, params⟩, hfilter, hstep⟩ := hstep
      cases hstep
      obtain ⟨hold, hrest⟩ := ih hloop
      refine ⟨fun c hc => hold c (List.mem_append_left _ hc), fun other hother => ?_⟩
      rcases List.mem_cons.1 hother with rfl | hother
      · exact ⟨_, condition, params, hfilter, fun c hc =>
          hold c (List.mem_append_right _ (Option.mem_toList.2 hc))⟩
      · exact hrest other hother
  obtain ⟨hold, hfilters⟩ := hgrow hfiltered
  refine ⟨⟨scope, applied', hscope, fun c hc => hdate c (hold c hc)⟩, fun filter hfilter => ?_⟩
  obtain ⟨params, condition, params', hcompiled, hall⟩ := hfilters filter hfilter
  exact ⟨params, condition, params', hcompiled, fun c hc => hdate c (hall c hc)⟩

end Compiled

end Forecast.Reporting
