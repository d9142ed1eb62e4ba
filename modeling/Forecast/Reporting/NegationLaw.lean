import Forecast.Reporting.FilterLaw

/-!
# A filter and its negation

A row should satisfy a filter or its negation, and not both. Over several columns the one asks for
any of them and the other for all, so the two are complementary where no comparison is NULL, and
also where some column matches. A NULL text is taken for the empty one by the negation alone.
-/

namespace Forecast.Reporting

open Transactions

/-- `=` and `!=`, `IN` and `NOT IN`, `ILIKE` and `NOT ILIKE`. -/
def Operator.negation? : Operator → Option Operator
  | .eq => some .neq
  | .inList => some .notInList
  | .ilike => some .notIlike
  | _ => none

/-! ### What a column has to satisfy -/

section Columns

variable {Cell : Type} (engine : Engine Cell) (today : ℤ) (row : String → Cell)
variable (columns : List String) (operator : Operator) (value : Value)

/-- The values that an equality or a membership is about. -/
def comparedValues : List Value :=
  match coerceOperator operator value with
  | .inList | .notInList => value.items
  | _ => [resolveFilterValue today value]

/-- The predicate on one column. -/
def Engine.columnSatisfies (cell : Cell) : Bool :=
  match resolveRange operator value with
  | .inl (low, high) => engine.isBetween cell low high
  | .inr value =>
    match operator with
    | .eq | .inList => (comparedValues today operator value).any (engine.compares cell .eq)
    | .neq | .notInList => (comparedValues today operator value).all (engine.compares cell .neq)
    | .ilike => engine.isLike cell false (likePattern value)
    | .notIlike => engine.isLike cell true (likePattern value)
    | operator => engine.compares cell operator (resolveFilterValue today value)

/-- Over several columns a text is looked for as it is, be it a range. -/
def Engine.columnOfManySatisfies (cell : Cell) : Bool :=
  match operator with
  | .ilike => engine.isLike cell false (likePattern value)
  | .notIlike => engine.isLike cell true (likePattern value)
  | operator => engine.columnSatisfies today operator value cell

def Engine.selects : Bool :=
  let satisfies := fun column : String =>
    if columns.length = 1 then engine.columnSatisfies today operator value (row column)
    else engine.columnOfManySatisfies today operator value (row column)
  columns = [] || if operator.excludes then columns.all satisfies else columns.any satisfies

end Columns

section Compiled

variable {Cell : Type} {engine : Engine Cell} {row : String → Cell}
variable {catalog : SemanticCatalog} {today : ℤ} {dataset : CatalogDataset}
variable {params params' : List Value} {operator : Operator} {value : Value}

def Operator.isNegatable : Operator → Bool
  | .eq | .neq | .inList | .notInList | .ilike | .notIlike => true
  | _ => false

theorem means_negatable {column : String} {p : Predicate} (hoperator : operator.isNegatable = true)
    (h : compileSingleColumnFilter catalog today dataset column operator value params =
      .ok (p, params')) :
    p.means engine row = engine.columnSatisfies today operator value (row column) := by
  simp only [compileSingleColumnFilter, bind_eq_ok] at h
  obtain ⟨name, hname, h⟩ := h
  obtain rfl := (ident_eq_ok.1 hname).2
  unfold Engine.columnSatisfies
  cases hrange : resolveRange operator value with
  | inl bounds =>
    rw [hrange] at h
    cases h
    rfl
  | inr value =>
    rw [hrange] at h
    dsimp only at h ⊢
    cases operator with
    | eq | neq =>
      cases value with
      | list values =>
        cases h
        rfl
      | _ =>
        cases h
        simp [Predicate.means, comparedValues, coerceOperator, Placeholders.push]
    | inList | notInList | ilike | notIlike =>
      cases h
      rfl
    | _ => cases hoperator

theorem means_compileFilter {filter : SemanticFilter Operator} {condition : Option Condition}
    (hoperator : filter.operator.isNegatable = true)
    (h : compileFilter catalog today dataset filter params = .ok (condition, params')) :
    condition.all (Condition.means engine row) =
      engine.selects today row
        (comparedColumns catalog dataset filter filter.operator filter.value) filter.operator
          filter.value := by
  unfold comparedColumns
  unfold compileFilter at h
  dsimp only at h
  split at h
  · rename_i hnone
    cases h
    rw [hnone]
    rfl
  · rename_i column hone
    simp only [bind_eq_ok, pure_eq_ok] at h
    obtain ⟨⟨p, params₁⟩, hp, h⟩ := h
    cases h
    rw [hone, Option.all_some, Condition.means, means_negatable hoperator hp]
    simp [Engine.selects]
  · rename_i column rest hlong hcons
    have hlength : (compatibleFilterColumns (filterColumns catalog dataset filter
        (catalog.filterOf filter)) filter.operator filter.value).length ≠ 1 := by
      rw [hcons, List.length_cons]
      intro hlength
      exact hlong (List.length_eq_zero_iff.1 (Nat.succ_injective hlength))
    have hne : compatibleFilterColumns (filterColumns catalog dataset filter
        (catalog.filterOf filter)) filter.operator filter.value ≠ [] := by
      rw [hcons]
      exact List.cons_ne_nil _ _
    generalize compatibleFilterColumns (filterColumns catalog dataset filter
        (catalog.filterOf filter)) filter.operator filter.value = columns at *
    cases hfilter : filter.operator with
    | ilike | notIlike =>
      rw [hfilter] at h
      simp only [bind_eq_ok, pure_eq_ok] at h
      obtain ⟨names, hnames, h⟩ := h
      cases h
      rw [mapM_ident_eq_ok hnames]
      simp [Engine.selects, hne, hlength, Condition.means, Predicate.means, Operator.excludes,
        Engine.columnOfManySatisfies, Function.comp_def, Placeholders.push]
    | eq | inList =>
      rw [hfilter] at h hoperator
      simp only [bind_eq_ok, pure_eq_ok] at h
      obtain ⟨⟨ps, params₁⟩, hps, h⟩ := h
      cases h
      rw [Option.all_some, Condition.means, any_eq_of_map_eq
        (map_means_compileColumns (means_negatable hoperator) hps)]
      simp [Engine.selects, hne, hlength, Operator.excludes, Engine.columnOfManySatisfies]
    | neq | notInList =>
      rw [hfilter] at h hoperator
      simp only [bind_eq_ok, pure_eq_ok] at h
      obtain ⟨⟨ps, params₁⟩, hps, h⟩ := h
      cases h
      rw [Option.all_some, Condition.means, all_eq_of_map_eq
        (map_means_compileColumns (means_negatable hoperator) hps)]
      simp [Engine.selects, hne, hlength, Operator.excludes, Engine.columnOfManySatisfies]
    | _ =>
      rw [hfilter] at hoperator
      cases hoperator

end Compiled

/-! ### When a row satisfies exactly one of the two -/

section Decides

variable {Cell : Type} (engine : Engine Cell) (today : ℤ) (row : String → Cell)
variable (columns : List String)

def Engine.EqualDecides (values : List Value) : Prop :=
  (∃ column ∈ columns, ∃ value ∈ values, engine.compare (row column) value = some .eq) ∨
    ∀ column ∈ columns, ∀ value ∈ values, (engine.compare (row column) value).isSome = true

/-- Some column has the text, or none of them is NULL, or the empty text does not have it. -/
def Engine.LikeDecides (pattern : Value) : Prop :=
  (∃ column ∈ columns, engine.isLike (row column) false pattern = true) ∨
    ∀ column ∈ columns, engine.text (row column) = none → engine.ilike "" pattern.toText = false

/-- A range is asked for by the filter and by its negation. -/
def Engine.RangeDecides (low high : Value) : Prop :=
  (∃ column ∈ columns, engine.isBetween (row column) low high = true) ∧
    ∃ column ∈ columns, engine.isBetween (row column) low high = false

def Engine.Decides (operator : Operator) (value : Value) : Prop :=
  columns ≠ [] ∧
    if operator = .ilike ∧ columns.length ≠ 1 then
      engine.LikeDecides row columns (likePattern value)
    else
      match resolveRange operator value with
      | .inl (low, high) => engine.RangeDecides row columns low high
      | .inr value =>
        if operator = .ilike then engine.LikeDecides row columns (likePattern value)
        else engine.EqualDecides row columns (comparedValues today operator value)

variable {engine today row columns}

theorem compares_neq_iff {cell : Cell} {value : Value} :
    engine.compares cell .neq value = true ↔
      (engine.compare cell value).isSome = true ∧ engine.compare cell value ≠ some .eq := by
  unfold Engine.compares
  cases engine.compare cell value with
  | none => simp
  | some order => cases order <;> simp

theorem compares_eq_iff {cell : Cell} {value : Value} :
    engine.compares cell .eq value = true ↔ engine.compare cell value = some .eq := by
  simp [Engine.compares]

/-- One of two tests that exclude each other is passed somewhere or the other everywhere. -/
theorem any_ne_all_iff {α : Type} {xs : List α} {f g : α → Bool}
    (hexclude : ∀ x ∈ xs, f x = true → g x = false) :
    xs.any f ≠ xs.all g ↔ xs.any f = true ∨ ∀ x ∈ xs, g x = true := by
  cases hany : xs.any f with
  | true =>
    obtain ⟨x, hx, hf⟩ := List.any_eq_true.1 hany
    have hall : xs.all g = false := by
      rw [List.all_eq_false]
      exact ⟨x, hx, by rw [hexclude x hx hf]; exact Bool.false_ne_true⟩
    simp [hall]
  | false => simp

theorem equalDecides_iff (values : List Value) :
    (columns.any fun column => values.any (engine.compares (row column) .eq)) ≠
        (columns.all fun column => values.all (engine.compares (row column) .neq)) ↔
      engine.EqualDecides row columns values := by
  have hsome : columns.any (fun column => values.any (engine.compares (row column) .eq)) = true ↔
      ∃ column ∈ columns, ∃ value ∈ values, engine.compare (row column) value = some .eq := by
    simp only [List.any_eq_true, compares_eq_iff]
  rw [any_ne_all_iff, hsome, Engine.EqualDecides]
  · by_cases hfound : ∃ column ∈ columns, ∃ value ∈ values,
        engine.compare (row column) value = some .eq
    · simp only [hfound, true_or]
    · have hnever : ∀ column ∈ columns, ∀ value ∈ values,
          engine.compare (row column) value ≠ some .eq :=
        fun column hcolumn value hvalue heq => hfound ⟨column, hcolumn, value, hvalue, heq⟩
      simp only [hfound, false_or, List.all_eq_true, compares_neq_iff]
      exact forall₂_congr fun column hcolumn => forall₂_congr fun value hvalue =>
        and_iff_left (hnever column hcolumn value hvalue)
  · intro column _ hany
    obtain ⟨value, hvalue, heq⟩ := List.any_eq_true.1 hany
    rw [List.all_eq_false]
    refine ⟨value, hvalue, ?_⟩
    rw [compares_neq_iff, not_and_not_right]
    exact fun _ => compares_eq_iff.1 heq

theorem likeDecides_iff (pattern : Value) :
    (columns.any fun column => engine.isLike (row column) false pattern) ≠
        (columns.all fun column => engine.isLike (row column) true pattern) ↔
      engine.LikeDecides row columns pattern := by
  rw [any_ne_all_iff, Engine.LikeDecides, List.any_eq_true]
  · by_cases hfound : ∃ column ∈ columns, engine.isLike (row column) false pattern = true
    · simp only [hfound, true_or]
    · simp only [hfound, false_or]
      refine forall₂_congr fun column hcolumn => ?_
      have hnot : ¬engine.isLike (row column) false pattern = true :=
        fun h => hfound ⟨column, hcolumn, h⟩
      unfold Engine.isLike at hnot ⊢
      cases htext : engine.text (row column) with
      | none => simp
      | some s =>
        rw [htext] at hnot
        simpa using hnot
  · intro column _ hlike
    unfold Engine.isLike at hlike ⊢
    cases htext : engine.text (row column) with
    | none => simp [htext] at hlike
    | some s =>
      rw [htext] at hlike
      simpa using hlike

theorem rangeDecides_iff {low high : Value} (hne : columns ≠ []) :
    (columns.any fun column => engine.isBetween (row column) low high) ≠
        (columns.all fun column => engine.isBetween (row column) low high) ↔
      engine.RangeDecides row columns low high := by
  obtain ⟨first, hfirst⟩ := List.exists_mem_of_ne_nil columns hne
  rw [Engine.RangeDecides, ← List.any_eq_true]
  cases hany : columns.any fun column => engine.isBetween (row column) low high with
  | true =>
    rw [ne_comm, Ne, Bool.not_eq_true, List.all_eq_false]
    simp
  | false =>
    have hall : columns.all (fun column => engine.isBetween (row column) low high) = false := by
      rw [List.all_eq_false]
      exact ⟨first, hfirst, List.any_eq_false.1 hany first hfirst⟩
    simp [hall]

section Negation

variable {operator negated : Operator} {value : Value}

theorem isNegatable_of_negation (h : operator.negation? = some negated) :
    operator.isNegatable = true ∧ negated.isNegatable = true := by
  cases operator <;> cases h <;> exact ⟨rfl, rfl⟩

example : Operator.negation? .between = none := by decide +kernel

theorem excludes_of_negation (h : operator.negation? = some negated) :
    operator.excludes = false ∧ negated.excludes = true := by
  cases operator <;> cases h <;> exact ⟨rfl, rfl⟩

theorem resolveRange_negation (h : operator.negation? = some negated) :
    resolveRange negated value = resolveRange operator value := by
  cases operator <;> cases h <;> cases value <;> rfl

theorem comparedValues_negation (h : operator.negation? = some negated) :
    comparedValues today negated value = comparedValues today operator value := by
  cases operator <;> cases h <;> cases value <;> rfl

theorem selects_ne_of_columns (h : operator.negation? = some negated)
    (hone : operator = .ilike → columns.length = 1) (hne : columns ≠ []) :
    engine.selects today row columns operator value ≠
        engine.selects today row columns negated value ↔
      (columns.any fun column => engine.columnSatisfies today operator value (row column)) ≠
        (columns.all fun column => engine.columnSatisfies today negated value (row column)) := by
  have hmany : ∀ {op : Operator} {cell : Cell}, (op = operator ∨ op = negated) →
      columns.length ≠ 1 → engine.columnOfManySatisfies today op value cell =
        engine.columnSatisfies today op value cell := by
    intro op cell hop hlength
    have hlike : operator ≠ .ilike := fun hoperator => hlength (hone hoperator)
    cases operator with
    | ilike => exact absurd rfl hlike
    | eq | inList =>
      cases h
      rcases hop with rfl | rfl <;> rfl
    | _ => cases h
  unfold Engine.selects
  rw [(excludes_of_negation h).1, (excludes_of_negation h).2]
  by_cases hlength : columns.length = 1
  · simp [hne, hlength]
  · simp [hne, hlength, hmany]

theorem selects_ne_iff_decides (h : operator.negation? = some negated) :
    engine.selects today row columns operator value ≠
        engine.selects today row columns negated value ↔
      engine.Decides today row columns operator value := by
  unfold Engine.Decides
  by_cases hne : columns = []
  · simp [hne, Engine.selects]
  by_cases hmany : operator = .ilike ∧ columns.length ≠ 1
  · rw [if_pos hmany]
    obtain ⟨rfl, hlength⟩ := hmany
    cases h
    simpa [Engine.selects, Operator.excludes, hne, hlength, Engine.columnOfManySatisfies] using
      likeDecides_iff (likePattern value)
  rw [if_neg hmany, selects_ne_of_columns h (fun hlike => by_contra fun hlength =>
    hmany ⟨hlike, hlength⟩) hne]
  unfold Engine.columnSatisfies
  rw [resolveRange_negation h]
  cases hrange : resolveRange operator value with
  | inl bounds => simpa [hne] using rangeDecides_iff hne
  | inr value =>
    cases operator with
    | ilike =>
      cases h
      simpa [hne] using likeDecides_iff (likePattern value)
    | eq =>
      cases h
      dsimp only
      have hvalues : comparedValues today .neq value = comparedValues today .eq value :=
        comparedValues_negation rfl
      rw [hvalues]
      simpa [hne] using equalDecides_iff (comparedValues today .eq value)
    | inList =>
      cases h
      dsimp only
      have hvalues : comparedValues today .notInList value = comparedValues today .inList value :=
        comparedValues_negation rfl
      rw [hvalues]
      simpa [hne] using equalDecides_iff (comparedValues today .inList value)
    | _ => cases h

end Negation

end Decides

/-! ### The law -/

section Law

variable {Cell : Type} {catalog : SemanticCatalog} {today : ℤ} {dataset : CatalogDataset}
variable {params params' ps ps' : List Value} {filter : SemanticFilter Operator}
variable {negated : Operator} {condition condition' : Option Condition}

theorem comparedColumns_negation (h : filter.operator.negation? = some negated) :
    comparedColumns catalog dataset { filter with operator := negated } negated filter.value =
      comparedColumns catalog dataset filter filter.operator filter.value := by
  obtain ⟨filterId, column, operator, value⟩ := filter
  cases operator <;> cases h <;> rfl

/-- A row satisfies exactly one of a filter and its negation if and only if it decides between
them. -/
theorem means_ne_negation_iff (engine : Engine Cell) (row : String → Cell)
    (hnegation : filter.operator.negation? = some negated)
    (h : compileFilter catalog today dataset filter params = .ok (condition, ps))
    (h' : compileFilter catalog today dataset { filter with operator := negated } params' =
      .ok (condition', ps')) :
    condition.all (Condition.means engine row) ≠ condition'.all (Condition.means engine row) ↔
      engine.Decides today row
        (comparedColumns catalog dataset filter filter.operator filter.value) filter.operator
          filter.value := by
  rw [means_compileFilter (isNegatable_of_negation hnegation).1 h,
    means_compileFilter (isNegatable_of_negation hnegation).2 h',
    comparedColumns_negation hnegation]
  exact selects_ne_iff_decides hnegation

end Law

/-! ### A product without a name -/

def productNamed (operator : Operator) : SemanticFilter Operator :=
  ⟨none, some "product_name", operator, .text "Aspirin"⟩

theorem isOk_productNamed (operator : Operator) (h : operator = .eq ∨ operator = .neq) :
    (compileFilter catalogExcerpt 740000 salesItems (productNamed operator) []).isOk = true := by
  rcases h with rfl | rfl <;> decide +kernel

/-- A sale of a named product is selected by one of the two. -/
theorem means_ne_negation_aspirin :
    ∃ condition condition' ps ps',
      compileFilter catalogExcerpt 740000 salesItems (productNamed .eq) [] = .ok (condition, ps) ∧
      compileFilter catalogExcerpt 740000 salesItems (productNamed .neq) [] =
        .ok (condition', ps') ∧
      (condition.all (Condition.means textEngine fun _ => some "Aspirin") ≠
          condition'.all (Condition.means textEngine fun _ => some "Aspirin") ↔
        textEngine.Decides 740000 (fun _ => some "Aspirin")
          (comparedColumns catalogExcerpt salesItems (productNamed .eq) .eq (.text "Aspirin")) .eq
            (.text "Aspirin")) := by
  obtain ⟨⟨condition, ps⟩, h⟩ := exists_of_isOk (isOk_productNamed .eq (.inl rfl))
  obtain ⟨⟨condition', ps'⟩, h'⟩ := exists_of_isOk (isOk_productNamed .neq (.inr rfl))
  exact ⟨condition, condition', ps, ps', h, h', means_ne_negation_iff textEngine _ rfl h h'⟩

/-- A sale of a product without a name is selected by neither. -/
theorem not_means_ne_negation :
    ¬∀ (catalog : SemanticCatalog) (today : ℤ) (dataset : CatalogDataset)
      (filter : SemanticFilter Operator) (negated : Operator) (row : String → Option String)
      (condition condition' : Option Condition) (ps ps' : List Value),
      filter.operator.negation? = some negated →
        compileFilter catalog today dataset filter [] = .ok (condition, ps) →
          compileFilter catalog today dataset { filter with operator := negated } [] =
              .ok (condition', ps') →
            condition.all (Condition.means textEngine row) ≠
              condition'.all (Condition.means textEngine row) := by
  intro hlaw
  obtain ⟨⟨condition, ps⟩, h⟩ := exists_of_isOk (isOk_productNamed .eq (.inl rfl))
  obtain ⟨⟨condition', ps'⟩, h'⟩ := exists_of_isOk (isOk_productNamed .neq (.inr rfl))
  apply hlaw catalogExcerpt 740000 salesItems (productNamed .eq) .neq (saleOf "1") condition
    condition' ps ps' rfl h h'
  rw [means_compileFilter rfl h, means_compileFilter rfl h']
  decide +kernel

end Forecast.Reporting
