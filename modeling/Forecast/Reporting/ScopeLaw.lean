import Forecast.Reporting.ReadRows
import Forecast.Reporting.StatementLaw

/-!
# The scope of the rows that are read

Whatever a query asks for, each row read for it is one of the caller's tenant, and of a company
and a branch or warehouse that the caller may see, as far as the dataset requires these. The
company is not restricted where the query asks for the core rows of the general ledger.
-/

namespace Forecast.Reporting

open Placeholders Transactions

namespace ReportingSecurityContext

variable (security : ReportingSecurityContext)

/-- A company that the caller may see: the one asked for, which has to be allowed if the caller's
companies are listed, or else any allowed one. -/
def AdmitsCompany (id : ℤ) : Prop :=
  match security.requestedCompanyId with
  | some requested => id = requested ∧
      (id ∈ security.allowedCompanyIds ∨ security.hasExplicitCompanyScope = false)
  | none => id ∈ security.allowedCompanyIds

/-- A branch or warehouse that the caller may see, in the same way. -/
def AdmitsBranch (id : String) : Prop :=
  if security.requestedBranchIds ≠ [] then
    id ∈ security.requestedBranchIds ∧
      (id ∈ security.allowedBranchIds ∨ security.hasExplicitBranchScope = false)
  else id ∈ security.allowedBranchIds

variable {security}

theorem admitsCompany_of_mem {id : ℤ} (h : id ∈ intersectCompany security) :
    security.AdmitsCompany id := by
  unfold intersectCompany at h
  unfold AdmitsCompany
  cases hrequest : security.requestedCompanyId with
  | none =>
    rw [hrequest] at h
    exact List.mem_eraseDups.1 h
  | some requested =>
    rw [hrequest] at h
    dsimp only at h ⊢
    split_ifs at h with hscope
    · obtain rfl := List.mem_singleton.1 h
      refine ⟨rfl, ?_⟩
      simpa using hscope
    · cases h

theorem admitsBranch_of_mem {id : String} (h : id ∈ intersectBranches security) :
    security.AdmitsBranch id := by
  unfold intersectBranches at h
  unfold AdmitsBranch
  split_ifs at h ⊢ with hrequest
  · obtain ⟨hmem, hscope⟩ := List.mem_filter.1 h
    refine ⟨hmem, ?_⟩
    simpa using hscope
  · exact List.mem_eraseDups.1 h

end ReportingSecurityContext

section Scope

variable {Cell : Type} (engine : Engine Cell) (catalog : SemanticCatalog)
variable (dataset : CatalogDataset) (filters : List (SemanticFilter Operator))
variable (security : ReportingSecurityContext) (row : String → Cell)

/-- The row is in the caller's scope, as far as the dataset requires it. -/
structure InScope : Prop where
  tenant : engine.compares (row "tenant_id") .eq (.text security.tenantId) = true
  company : "company_id" ∈ dataset.requiredSecurityFilters → coreGlOnly dataset filters = false →
    ∃ id, security.AdmitsCompany id ∧ engine.compares (row "company_id") .eq (.number id) = true
  /-- A filter for the core rows, unless its entry of the catalog is about other columns. -/
  core : ∀ filter ∈ filters, isCoreGlFilter filter = true →
    filterColumns catalog dataset filter (catalog.filterOf filter) = ["ledger_source"] →
      engine.compares (row "ledger_source") .eq (.text "CORE_GL") = true
  branch : dataset.requiresBranch = true →
    ∃ id, security.AdmitsBranch id ∧
      engine.compares (row dataset.branchColumn) .eq (.text id) = true

end Scope

section Clause

variable {Cell : Type} {engine : Engine Cell} {row : String → Cell}
variable {catalog : SemanticCatalog} {today : ℤ} {dataset : CatalogDataset}
variable {filters : List (SemanticFilter Operator)} {security : ReportingSecurityContext}

theorem mem_conditions_addMember (clause : WhereClause) (column : String) (values : List Value)
    (cast : Cast) :
    .one (.member column false (push clause.params (.list values)).1 cast) ∈
      (clause.addMember column values cast).conditions :=
  List.mem_append_right _ (List.mem_singleton_self _)

theorem exists_of_means_addMember {clause : WhereClause} {column : String} {values : List Value}
    {cast : Cast}
    (h : ∀ c ∈ (clause.addMember column values cast).conditions, c.means engine row = true) :
    ∃ value ∈ values, engine.compares (row column) .eq value = true := by
  have hmember := h _ (mem_conditions_addMember clause column values cast)
  simp only [Condition.means, Predicate.means, push, Engine.isMember, Value.items,
    Bool.false_eq_true, if_false, List.any_eq_true] at hmember
  exact hmember

theorem means_of_means_addMember {clause : WhereClause} {column : String} {values : List Value}
    {cast : Cast}
    (h : ∀ c ∈ (clause.addMember column values cast).conditions, c.means engine row = true) :
    ∀ c ∈ clause.conditions, c.means engine row = true :=
  fun c hc => h c (List.mem_append_left _ hc)

theorem scope_of_means {scope : WhereClause} {applied : List String}
    (hscope : addSecurityFilters dataset filters security = .ok (scope, applied))
    (hmeans : ∀ c ∈ scope.conditions, c.means engine row = true) :
    engine.compares (row "tenant_id") .eq (.text security.tenantId) = true ∧
      ("company_id" ∈ dataset.requiredSecurityFilters → coreGlOnly dataset filters = false →
        ∃ id, security.AdmitsCompany id ∧
          engine.compares (row "company_id") .eq (.number id) = true) ∧
      (dataset.requiresBranch = true → ∃ id, security.AdmitsBranch id ∧
        engine.compares (row dataset.branchColumn) .eq (.text id) = true) := by
  have htenant : (∀ c ∈ (tenantClause security).conditions, c.means engine row = true) →
      engine.compares (row "tenant_id") .eq (.text security.tenantId) = true :=
    fun h => h _ (List.mem_singleton_self _)
  have hcompany : ∀ {clause : WhereClause},
      (∀ c ∈ (clause.addMember "company_id"
        ((intersectCompany security).map fun id : ℤ => .number id) .intArray).conditions,
          c.means engine row = true) →
      ∃ id, security.AdmitsCompany id ∧
        engine.compares (row "company_id") .eq (.number id) = true := by
    intro clause h
    obtain ⟨value, hvalue, hcompare⟩ := exists_of_means_addMember h
    obtain ⟨id, hid, rfl⟩ := List.mem_map.1 hvalue
    exact ⟨id, ReportingSecurityContext.admitsCompany_of_mem hid, hcompare⟩
  have hbranch : ∀ {clause : WhereClause},
      (∀ c ∈ (clause.addMember dataset.branchColumn
        ((intersectBranches security).map .text) .uuidArray).conditions,
          c.means engine row = true) →
      ∃ id, security.AdmitsBranch id ∧
        engine.compares (row dataset.branchColumn) .eq (.text id) = true := by
    intro clause h
    obtain ⟨value, hvalue, hcompare⟩ := exists_of_means_addMember h
    obtain ⟨id, hid, rfl⟩ := List.mem_map.1 hvalue
    exact ⟨id, ReportingSecurityContext.admitsBranch_of_mem hid, hcompare⟩
  simp only [addSecurityFilters, bind_eq_ok, throwWhen_eq_ok] at hscope
  obtain ⟨-, -, -, -, hscope⟩ := hscope
  by_cases hby : (dataset.requiredSecurityFilters.contains "company_id" &&
      !coreGlOnly dataset filters) = true
  · simp only [if_pos hby] at hscope
    split_ifs at hscope with hrequires
    · cases hscope
      have hinner := means_of_means_addMember hmeans
      exact ⟨htenant (means_of_means_addMember hinner), fun _ _ => hcompany hinner,
        fun _ => hbranch hmeans⟩
    · cases hscope
      exact ⟨htenant (means_of_means_addMember hmeans), fun _ _ => hcompany hmeans,
        fun h => absurd h hrequires⟩
  · have hfree : "company_id" ∈ dataset.requiredSecurityFilters →
        coreGlOnly dataset filters = false → False := by
      intro hmem hcore
      apply hby
      simp [hmem, hcore]
    simp only [if_neg hby] at hscope
    split_ifs at hscope with hrequires
    · cases hscope
      exact ⟨htenant (means_of_means_addMember hmeans), fun hmem hcore => (hfree hmem hcore).elim,
        fun _ => hbranch hmeans⟩
    · cases hscope
      exact ⟨htenant hmeans, fun hmem hcore => (hfree hmem hcore).elim,
        fun h => absurd h hrequires⟩

theorem compares_of_isCoreGlFilter {filter : SemanticFilter Operator}
    (hcore : isCoreGlFilter filter = true)
    (hcolumns : filterColumns catalog dataset filter (catalog.filterOf filter) = ["ledger_source"])
    {params params' : List Value} {condition : Option Condition}
    (h : compileFilter catalog today dataset filter params = .ok (condition, params'))
    (hmeans : ∀ c ∈ condition, c.means engine row = true) :
    engine.compares (row "ledger_source") .eq (.text "CORE_GL") = true := by
  simp only [isCoreGlFilter, Bool.and_eq_true, decide_eq_true_eq] at hcore
  obtain ⟨⟨-, hoperator⟩, hvalue⟩ := hcore
  obtain ⟨s, hs⟩ : ∃ s, filter.value = .text s := by
    cases hv : filter.value <;> simp [hv, Value.isText] at hvalue
    exact ⟨_, rfl⟩
  rw [hs, Value.isText, decide_eq_true_eq] at hvalue
  subst hvalue
  have hfit : compatibleFilterColumns ["ledger_source"] .eq (.text "CORE_GL") =
      ["ledger_source"] := by
    decide +kernel
  simp only [compileFilter, hcolumns, hoperator, hs, hfit, bind_eq_ok, pure_eq_ok] at h
  obtain ⟨⟨p, params₁⟩, hp, h⟩ := h
  cases h
  have hone := hmeans (.one p) rfl
  simp only [compileSingleColumnFilter, resolveRange, coerceOperator, bind_eq_ok,
    pure_eq_ok] at hp
  obtain ⟨column, hcolumn, hp⟩ := hp
  cases hp
  rw [← (ident_eq_ok.1 hcolumn).2] at hone
  exact hone

end Clause

/-- Every row that is read for a query is in the scope of its caller, whatever the shape of the
report. -/
theorem inScope_of_reads {Cell : Type} {engine : Engine Cell} {row : String → Cell}
    {catalog : SemanticCatalog} {today : ℤ} {query : SemanticReportQuery}
    {security : ReportingSecurityContext} {compiled : CompiledSql}
    (h : compile catalog today query security = .ok compiled)
    (hread : compiled.reads engine row = true) :
    ∃ dataset, catalog.getDataset query.datasetId = some dataset ∧
      InScope engine catalog dataset query.filters security row := by
  obtain ⟨dataset, period, one, hdataset, hfilters, hone, hmeans⟩ :=
    exists_statement_of_reads h hread
  obtain ⟨⟨scope, applied, hscope, hconditions⟩, hcompiled⟩ := conditions_compileStatement hone
  rw [hfilters] at hscope hcompiled
  obtain ⟨htenant, hcompany, hbranch⟩ :=
    scope_of_means hscope fun c hc => hmeans c (hconditions c hc)
  refine ⟨dataset, hdataset, htenant, hcompany, fun filter hfilter hcore hcolumns => ?_, hbranch⟩
  obtain ⟨params, condition, params', hcompile, hall⟩ := hcompiled filter hfilter
  exact compares_of_isCoreGlFilter hcore hcolumns hcompile fun c hc => hmeans c (hall c hc)

/-! ### A sale of another company -/

def textEngine : Engine (Option String) where
  isNull := Option.isNone
  compare cell value := cell.map fun s => compareOfLessAndEq s value.toText
  text := id
  ilike s pattern := contains s (String.ofList (pattern.toList.filter (· ≠ '%')))

/-- A sale of today. -/
def saleOf (companyId : String) : String → Option String
  | "tenant_id" => some "11111111-1111-4111-8111-111111111111"
  | "company_id" => some companyId
  | "branch_id" => some "22222222-2222-4222-8222-222222222222"
  | "invoice_date" => some (formatDate 740000)
  | _ => none

/-- A reader without listed companies, who asks for company 7. -/
def unlistedReader : ReportingSecurityContext :=
  { salesReader with requestedCompanyId := some 7, hasExplicitCompanyScope := false }

theorem inScope_of_reads_sale :
    ∃ query compiled,
      validateReport catalogExcerpt 740000 (salesByProduct ["net_sales"] none) salesReader none =
        .ok query ∧
      compile catalogExcerpt 740000 query salesReader = .ok compiled ∧
      compiled.reads textEngine (saleOf "1") = true ∧
      ∃ dataset, catalogExcerpt.getDataset query.datasetId = some dataset ∧
        InScope textEngine catalogExcerpt dataset query.filters salesReader (saleOf "1") := by
  have hreads : ((validateReport catalogExcerpt 740000 (salesByProduct ["net_sales"] none)
      salesReader none).toOption.bind fun query =>
        (compile catalogExcerpt 740000 query salesReader).toOption.map fun compiled =>
          compiled.reads textEngine (saleOf "1")) = some true := by
    decide +kernel
  obtain ⟨query, hquery, hreads⟩ := Option.bind_eq_some_iff.1 hreads
  obtain ⟨compiled, hcompiled, hread⟩ := Option.map_eq_some_iff.1 hreads
  have hcompile := eq_ok_of_toOption hcompiled
  exact ⟨query, compiled, eq_ok_of_toOption hquery, hcompile, hread,
    inScope_of_reads hcompile hread⟩

/-- A caller without listed companies reads the rows of any company that is asked for. -/
theorem not_allowedCompany_unlisted :
    ¬∀ (catalog : SemanticCatalog) (today : ℤ) (input : ReportInput)
      (security : ReportingSecurityContext) (query : SemanticReportQuery) (compiled : CompiledSql)
      (row : String → Option String),
      validateReport catalog today input security none = .ok query →
        compile catalog today query security = .ok compiled →
          compiled.reads textEngine row = true →
            (∃ id ∈ security.allowedCompanyIds,
              textEngine.compares (row "company_id") .eq (.number id) = true) ∨
              textEngine.compares (row "ledger_source") .eq (.text "CORE_GL") = true := by
  intro h
  have hreads : ((validateReport catalogExcerpt 740000 (salesByProduct ["net_sales"] none)
      unlistedReader none).toOption.bind fun query =>
        (compile catalogExcerpt 740000 query unlistedReader).toOption.map fun compiled =>
          compiled.reads textEngine (saleOf "7")) = some true := by
    decide +kernel
  obtain ⟨query, hquery, hreads⟩ := Option.bind_eq_some_iff.1 hreads
  obtain ⟨compiled, hcompiled, hread⟩ := Option.map_eq_some_iff.1 hreads
  have hseen := h catalogExcerpt 740000 _ unlistedReader query compiled (saleOf "7")
    (eq_ok_of_toOption hquery) (eq_ok_of_toOption hcompiled) hread
  rcases hseen with ⟨id, hid, hcompany⟩ | hcore
  · obtain rfl : id = 1 := List.mem_singleton.1 hid
    revert hcompany
    decide +kernel
  · revert hcore
    decide +kernel

end Forecast.Reporting
