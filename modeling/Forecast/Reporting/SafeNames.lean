import Forecast.Reporting.SafeReports
import Forecast.Reporting.StatementLaw

/-!
# The names that the compiler writes

Every name of a statement is one of the catalog, a word in the text of a metric or a fixed one, and
the compiler has read it as an identifier. Where no text of the catalog has a reserved token, the
statements are safe.
-/

namespace Forecast.Reporting

open Lexemes Placeholders Transactions

/-! ### The texts of a catalog -/

def CatalogDataset.texts (dataset : CatalogDataset) : List String :=
  dataset.viewName :: dataset.dateFields.map DateField.column ++
    dataset.defaultFilters.filterMap SemanticFilter.column

def CatalogFilter.texts (filter : CatalogFilter) : List String :=
  filter.column.toList ++ filter.columns.getD []

/-- No expression, view, column or name of a metric in the catalog has a reserved token. -/
structure SemanticCatalog.Clean (catalog : SemanticCatalog) : Prop where
  datasets : ∀ d ∈ catalog.datasets, ∀ text ∈ d.texts, hasReservedToken text = false
  metrics : ∀ m ∈ catalog.metrics, ∀ text ∈ [m.metricId, m.expression],
    hasReservedToken text = false
  dimensions : ∀ d ∈ catalog.dimensions, ∀ text ∈ d.labelColumn :: d.columns,
    hasReservedToken text = false
  filters : ∀ f ∈ catalog.filters, ∀ text ∈ f.texts, hasReservedToken text = false
  timeFields : ∀ t ∈ catalog.timeFields, hasReservedToken t.column = false
  displayColumns : ∀ c ∈ catalog.displayColumns, hasReservedToken c.column = false

/-! ### Words of an expression -/

/-- The runs of word characters are the words among the lexemes. -/
theorem wordsOf_lex (cs : List Char) :
    ∃ w ws rest, wordsOf cs = w :: ws ∧
      lex isWordChar cs = (if w = [] then rest else .word w :: rest) ∧
      (∀ v, rest.head? ≠ some (.word v)) ∧ ∀ v ∈ ws, v ≠ [] → .word v ∈ rest := by
  induction cs with
  | nil => exact ⟨[], [], [], rfl, rfl, by simp, by simp⟩
  | cons c cs ih =>
    obtain ⟨w, ws, rest, hwords, hlex, hrest, hmem⟩ := ih
    by_cases hc : isWordChar c = true
    · refine ⟨c :: w, ws, rest, by simp [wordsOf, hc, hwords], ?_, hrest, hmem⟩
      rw [lex_cons_of_word hc, hlex, if_neg (List.cons_ne_nil c w)]
      split_ifs with hw
      · rw [hw]
        exact extend_of_head?_ne c hrest
      · rfl
    · rw [Bool.not_eq_true] at hc
      refine ⟨[], w :: ws, .other c :: lex isWordChar cs, by simp [wordsOf, hc, hwords], ?_,
        by simp, ?_⟩
      · rw [lex_cons_of_not hc, if_pos rfl]
      · intro v hv hne
        apply List.mem_cons_of_mem
        rw [hlex]
        rcases List.mem_cons.1 hv with rfl | hv
        · rw [if_neg hne]
          exact List.mem_cons_self
        · split_ifs
          · exact hmem v hv hne
          · exact List.mem_cons_of_mem _ (hmem v hv hne)

theorem mem_lexemes_of_mem_words {text word : String} (hne : word ≠ "")
    (h : word ∈ words text) : .word word.toList ∈ lexemes text := by
  obtain ⟨v, hv, rfl⟩ := List.mem_map.1 h
  have hvne : v ≠ [] := by
    rintro rfl
    exact hne rfl
  obtain ⟨w, ws, rest, hwords, hlex, -, hmem⟩ := wordsOf_lex text.toList
  rw [hwords] at hv
  rw [lexemes, hlex, String.toList_ofList]
  rcases List.mem_cons.1 hv with rfl | hv
  · rw [if_neg hvne]
    exact List.mem_cons_self
  · split_ifs
    · exact hmem v hv hvne
    · exact List.mem_cons_of_mem _ (hmem v hv hvne)

theorem SafeName.of_mem_words {text name : String} (hname : isIdentifier name = true)
    (htext : hasReservedToken text = false) (h : name ∈ words text) : SafeName name := by
  obtain ⟨c, cs, hlist, -, hall⟩ := isIdentifier_eq_true hname
  have hne : name ≠ "" := by
    rintro rfl
    cases hlist
  have hmem := mem_lexemes_of_mem_words hne h
  simp only [hasReservedToken, hasForbiddenToken, hasDisallowed, Bool.or_eq_false_iff,
    List.any_eq_false] at htext
  obtain ⟨⟨-, hwords, -⟩, hfrom⟩ := htext
  have hword := hwords _ hmem
  have hnotFrom := hfrom _ hmem
  rw [hlist] at hword hnotFrom
  have hsemicolon : ';' ∉ name.toList := fun hin =>
    absurd (hall ';' (hlist ▸ hin)) (by decide)
  refine ⟨hname, ?_⟩
  simp only [hasReservedToken, hasForbiddenToken, hasDisallowed, lexemes_of_identifier hname, hlist,
    Bool.or_eq_false_iff, List.contains_eq_mem, decide_eq_false_iff_not]
  refine ⟨⟨hlist ▸ hsemicolon, ?_, ?_⟩, ?_⟩
  · simpa using hword
  · simp [finds, mysqlTable, Lexemes.found, matchesAt]
  · simpa using hnotFrom

/-! ### Names that can be written -/

/-- The names that are no text of the catalog. -/
theorem safeName_fixed {name : String}
    (h : name ∈ ["tenant_id", "company_id", "branch_id", "warehouse_id", "month", "date"]) :
    SafeName name := by
  have hall : ∀ name ∈ ["tenant_id", "company_id", "branch_id", "warehouse_id", "month", "date"],
      isIdentifier name = true ∧ hasReservedToken name = false := by decide +kernel
  exact ⟨(hall name h).1, (hall name h).2⟩

theorem mem_of_lookup_eq_some {α : Type} {key : α → String} {entries : List α} {id : String}
    {entry : α} (h : lookup key entries id = some entry) : entry ∈ entries :=
  List.mem_reverse.1 (List.mem_of_find?_eq_some h)

section Catalog

variable {catalog : SemanticCatalog} {dataset : CatalogDataset}

theorem safeName_allowed (hclean : catalog.Clean) (hdataset : dataset ∈ catalog.datasets)
    {column : String} (h : isColumnAllowedForDataset catalog dataset column = true) :
    SafeName column := by
  obtain ⟨hid, h⟩ := Bool.and_eq_true_iff.1 h
  have htexts := hclean.datasets dataset hdataset
  simp only [Bool.or_eq_true, List.any_eq_true, Bool.and_eq_true, decide_eq_true_eq,
    List.contains_eq_mem] at h
  rcases h with ((((((hfixed | hdimension) | htime) | hfilter) | hdisplay) | hmetric) | hdefault) |
    hdate
  · exact safeName_fixed (List.mem_append_left ["month", "date"] hfixed)
  · obtain ⟨d, hd, -, hcolumn⟩ := hdimension
    exact ⟨hid, hclean.dimensions d hd column (List.mem_cons_of_mem _ hcolumn)⟩
  · obtain ⟨t, ht, -, rfl⟩ := htime
    exact ⟨hid, hclean.timeFields t ht⟩
  · obtain ⟨f, hf, -, hcolumn⟩ := hfilter
    refine ⟨hid, hclean.filters f hf column ?_⟩
    rcases hcolumn with hcolumn | hcolumn
    · exact List.mem_append_left _ (by simp [hcolumn])
    · exact List.mem_append_right _ hcolumn
  · obtain ⟨c, hc, -, rfl⟩ := hdisplay
    exact ⟨hid, hclean.displayColumns c hc⟩
  · obtain ⟨m, hm, -, hword⟩ := hmetric
    exact .of_mem_words hid (hclean.metrics m hm m.expression (by simp)) hword
  · obtain ⟨f, hf, hcolumn⟩ := hdefault
    exact ⟨hid, htexts column (List.mem_append_right _ (List.mem_filterMap.2 ⟨f, hf, hcolumn⟩))⟩
  · obtain ⟨d, hd, rfl⟩ := hdate
    exact ⟨hid, htexts d.column (List.mem_append_left _
      (List.mem_cons_of_mem _ (List.mem_map_of_mem hd)))⟩

theorem clean_dateField (hclean : catalog.Clean) (hdataset : dataset ∈ catalog.datasets)
    {d : DateField} (hd : d ∈ dataset.dateFields) : hasReservedToken d.column = false :=
  hclean.datasets dataset hdataset d.column (List.mem_append_left _
    (List.mem_cons_of_mem _ (List.mem_map_of_mem hd)))

theorem clean_dateColumnForFieldId (hclean : catalog.Clean)
    (hdataset : dataset ∈ catalog.datasets) {fieldId column : String}
    (h : dateColumnForFieldId catalog dataset fieldId = some column) :
    hasReservedToken column = false := by
  unfold dateColumnForFieldId at h
  split at h
  · rename_i t ht
    cases h
    obtain ⟨ht, -⟩ := Option.filter_eq_some_iff.1 ht
    exact hclean.timeFields t (mem_of_lookup_eq_some ht)
  · split at h
    · rename_i d hd
      cases h
      exact clean_dateField hclean hdataset (List.mem_of_find?_eq_some hd)
    · obtain ⟨c, hc, rfl⟩ := Option.map_eq_some_iff.1 h
      obtain ⟨hc, -⟩ := Option.filter_eq_some_iff.1 hc
      exact hclean.displayColumns c (mem_of_lookup_eq_some hc)

theorem truthy_eq_some {s : Option String} {text : String} (h : truthy s = some text) :
    s = some text :=
  (Option.filter_eq_some_iff.1 h).1

theorem clean_defaultDateColumn (hclean : catalog.Clean) (hdataset : dataset ∈ catalog.datasets)
    {fieldId : Option String} {column : String}
    (h : defaultDateColumn catalog dataset fieldId = some column) :
    hasReservedToken column = false := by
  unfold defaultDateColumn at h
  split at h
  · rename_i named hnamed
    cases h
    obtain ⟨id, -, hcolumn⟩ := Option.bind_eq_some_iff.1 (truthy_eq_some hnamed)
    exact clean_dateColumnForFieldId hclean hdataset hcolumn
  · split at h
    · rename_i t ht
      cases h
      exact hclean.timeFields t (List.mem_of_find?_eq_some ht)
    · obtain ⟨d, hd, rfl⟩ := Option.map_eq_some_iff.1 h
      exact clean_dateField hclean hdataset (List.mem_of_find?_eq_some hd)

/-! ### Conditions -/

section Conditions

variable {today : ℤ} {params params' : List Value}

theorem column_compileSingleColumnFilter {column : String} {operator : Operator} {value : Value}
    {p : Predicate}
    (h : compileSingleColumnFilter catalog today dataset column operator value params =
      .ok (p, params')) : p.column = column := by
  unfold compileSingleColumnFilter at h
  simp only [bind_eq_ok] at h
  obtain ⟨name, hname, h⟩ := h
  obtain ⟨-, rfl⟩ := ident_eq_ok.1 hname
  cases hrange : resolveRange operator value with
  | inl bounds =>
    obtain ⟨low, high⟩ := bounds
    rw [hrange] at h
    cases h
    rfl
  | inr resolved =>
    rw [hrange] at h
    dsimp only at h
    cases hop : coerceOperator operator resolved with
    | between =>
      rw [hop] at h
      dsimp only at h
      split at h
      · cases h
        rfl
      · cases h
    | _ =>
      rw [hop] at h
      cases h
      rfl

theorem columns_compileColumns {operator : Operator} {value : Value} {columns : List String}
    {ps : List Predicate}
    (h : compileColumns catalog today dataset operator value columns params = .ok (ps, params')) :
    ∀ p ∈ ps, p.column ∈ columns := by
  induction columns generalizing params ps with
  | nil =>
    cases h
    exact List.forall_mem_nil _
  | cons column columns ih =>
    simp only [compileColumns, bind_eq_ok, pure_eq_ok] at h
    obtain ⟨⟨p, params₁⟩, hp, ⟨ps', params₂⟩, hps, h⟩ := h
    cases h
    refine List.forall_mem_cons.2 ⟨?_, fun q hq => List.mem_cons_of_mem _ (ih hps q hq)⟩
    rw [column_compileSingleColumnFilter hp]
    exact List.mem_cons_self

theorem columns_compileFilter {filter : SemanticFilter Operator} {condition : Option Condition}
    (h : compileFilter catalog today dataset filter params = .ok (condition, params')) :
    ∀ c ∈ condition, ∀ p ∈ c.predicates,
      isColumnAllowedForDataset catalog dataset p.column = true := by
  have hallowed : ∀ column ∈ compatibleFilterColumns (filterColumns catalog dataset filter
      (catalog.filterOf filter)) filter.operator filter.value,
      isColumnAllowedForDataset catalog dataset column = true := by
    intro column hcolumn
    have hmem : column ∈ filterColumns catalog dataset filter (catalog.filterOf filter) := by
      unfold compatibleFilterColumns at hcolumn
      split at hcolumn
      all_goals first
        | exact List.mem_of_mem_filter hcolumn
        | exact hcolumn
        | (split_ifs at hcolumn
           · exact hcolumn
           · exact List.mem_of_mem_filter hcolumn)
    exact (List.mem_filter.1 hmem).2
  have hone : ∀ {column : String} {operator : Operator} {p : Predicate} {params₁ : List Value},
      isColumnAllowedForDataset catalog dataset column = true →
      compileSingleColumnFilter catalog today dataset column operator filter.value params =
        .ok (p, params₁) →
      ∀ c ∈ some (Condition.one p), ∀ q ∈ c.predicates,
        isColumnAllowedForDataset catalog dataset q.column = true := by
    intro column operator p params₁ hcolumn hp c hc q hq
    cases hc
    rw [List.mem_singleton.1 hq, column_compileSingleColumnFilter hp]
    exact hcolumn
  have hshared : ∀ (negated : Bool) (hole : Hole),
      ∀ p ∈ (compatibleFilterColumns (filterColumns catalog dataset filter
        (catalog.filterOf filter)) filter.operator filter.value).map
          fun column => Predicate.like column negated hole,
        isColumnAllowedForDataset catalog dataset p.column = true := by
    intro negated hole p hp
    obtain ⟨column, hcolumn, rfl⟩ := List.mem_map.1 hp
    exact hallowed column hcolumn
  unfold compileFilter at h
  dsimp only at h
  split at h
  · cases h
    exact fun c hc => absurd hc (Option.not_mem_none c)
  · rename_i column hcolumns
    rw [hcolumns] at hallowed
    simp only [bind_eq_ok, pure_eq_ok] at h
    obtain ⟨⟨p, params₁⟩, hp, h⟩ := h
    cases h
    exact hone (hallowed column List.mem_cons_self) hp
  · rename_i column rest hlong hcolumns
    have hfirst := hallowed column (hcolumns ▸ List.mem_cons_self)
    split at h
    · simp only [bind_eq_ok, pure_eq_ok] at h
      obtain ⟨names, hnames, h⟩ := h
      cases h
      rw [mapM_ident_eq_ok hnames]
      exact fun c hc => Option.mem_some_iff.1 hc ▸ hshared false _
    · simp only [bind_eq_ok, pure_eq_ok] at h
      obtain ⟨names, hnames, h⟩ := h
      cases h
      rw [mapM_ident_eq_ok hnames]
      exact fun c hc => Option.mem_some_iff.1 hc ▸ hshared true _
    all_goals
      simp only [bind_eq_ok, pure_eq_ok] at h
      obtain ⟨⟨p, params₁⟩, hp, h⟩ := h
      cases h
      first
        | exact hone hfirst hp
        | (intro c hc q hq
           cases hc
           exact hallowed _ (columns_compileColumns hp q hq))

end Conditions

end Catalog

end Forecast.Reporting
