import Forecast.Reporting.Renumbering

/-!
# Statements that pass the safety rules

A statement whose names and metrics have no reserved token passes and reads its own view, and so
does a report of such statements in each of the three shapes.
-/

namespace Forecast.Reporting

open Lexemes Placeholders

/-! ### Names of a statement -/

def Predicate.column : Predicate → String
  | compare column _ _ _ => column
  | member column _ _ _ => column
  | between column _ _ _ => column
  | like column _ _ => column

def Expr.source : Expr → String
  | column name => name
  | dateOf name => name
  | monthOf name => name

def OrderKey.source : OrderKey → String
  | name s => s
  | dateOf column => column
  | least column => column
  | greatest column => column

def SelectItem.Safe : SelectItem → Prop
  | expr e name => SafeName e.source ∧ SafeName name
  | metric tokens metricId =>
    SafeName metricId ∧ ∃ (expression : String) (k : ℕ), hasReservedToken expression = false ∧
      tokens = (Token.ofText expression).map (Token.rebase k)

structure Statement.Safe (s : Statement) : Prop where
  select : ∀ item ∈ s.select, item.Safe
  view : SafeName s.view
  conditions : ∀ c ∈ s.conditions, ∀ p ∈ c.predicates, SafeName p.column
  groupBy : ∀ e ∈ s.groupBy, SafeName e.source
  orderBy : ∀ item ∈ s.orderBy, SafeName item.key.source

/-- Raising the placeholders leaves the names alone. -/
theorem Statement.Safe.rebase {s : Statement} (h : s.Safe) (k : ℕ) : (s.rebase k).Safe where
  select := by
    intro item hitem
    obtain ⟨old, hold, rfl⟩ := List.mem_map.1 hitem
    have hsafe := h.select old hold
    cases old with
    | expr e name => exact hsafe
    | metric tokens metricId =>
      obtain ⟨hid, expression, j, hexpression, rfl⟩ := hsafe
      refine ⟨hid, expression, j + k, hexpression, ?_⟩
      rw [List.map_map]
      apply List.map_congr_left
      intro token _
      cases token with
      | char c => rfl
      | placeholder n => exact congrArg Token.placeholder (Nat.add_assoc n j k)
  view := h.view
  conditions := by
    intro c hc p hp
    obtain ⟨old, hold, rfl⟩ := List.mem_map.1 hc
    have hcolumn : ∀ q : Predicate, (q.rebase k).column = q.column := by
      intro q
      cases q <;> rfl
    have hpredicates : ∀ c : Condition, (c.rebase k).predicates =
        c.predicates.map (Predicate.rebase k) := by
      intro c
      cases c <;> rfl
    rw [hpredicates] at hp
    obtain ⟨q, hq, rfl⟩ := List.mem_map.1 hp
    rw [hcolumn]
    exact h.conditions old hold q hq
  groupBy := h.groupBy
  orderBy := h.orderBy

/-! ### The pieces of a statement -/

theorem lexemes_number (n : ℕ) : lexemes (toString n) = [.word (toString n).toList] := by
  obtain ⟨hne, hdigits⟩ := digits_toString n
  exact lex_word hne fun d hd => isWordChar_of_isDigit (hdigits d hd)

theorem passes_number (n : ℕ) : Passes (toString n) [] := by
  obtain ⟨hne, hdigits⟩ := digits_toString n
  obtain ⟨c, cs, hlist⟩ := List.exists_cons_of_ne_nil hne
  have hc : c.isDigit = true := hdigits c (hlist ▸ List.mem_cons_self)
  have hfrom : isWordOf "from" (.word (c :: cs)) = false :=
    isWordOf_of_isDigit (reserved "from" (by simp)).1.2 hc
  apply passes_of_outside
  · intro hmem
    exact absurd (hdigits ';' hmem) (by decide)
  · rw [lexemes_number, hlist]
    simp [hasDisallowed, isDisallowed_of_isDigit hc, finds, mysqlTable, found, matchesAt]
  · rw [lexemes_number, hlist]
    simpa using hfrom

theorem passes_holeText (hole : Hole) : Passes (holeText hole) [] :=
  (passes_number hole.index).opened (openText (by simp [openTexts]))

theorem closes_cast (cast : Cast) : closes cast.text = true := by
  apply closeText
  cases cast <;> simp [closeTexts, Cast.text]

theorem glues_operator (operator : Operator) : glues (" " ++ operator.text ++ " $") = true := by
  apply operatorText
  refine List.mem_map.2 ⟨operator, ?_, rfl⟩
  cases operator <;> decide

theorem closes_paren : closes ")" = true := closeText (by simp [closeTexts])

theorem opens_paren : opens "(" = true := openText (by simp [openTexts])

theorem glues_as : glues " AS " = true := glueText (by simp [glueTexts])

theorem passes_predicate {p : Predicate} (h : SafeName p.column) : Passes p.text [] := by
  cases p with
  | compare column operator value cast =>
    have htext : (Predicate.compare column operator value cast).text =
        column ++ (" " ++ operator.text ++ " $") ++ toString value.index ++ cast.text := by
      have hdollar : " $" = " " ++ "$" := rfl
      simp only [Predicate.text, holeText, hdollar, String.append_assoc]
    rw [htext]
    exact (h.passes.around (glues_operator operator) (passes_number value.index)).closed
      (closes_cast cast)
  | member column negated values cast =>
    have hvalues := (passes_holeText values).closed (closes_cast cast)
    cases negated with
    | false =>
      have hany : glues " = ANY(" = true := glueText (by simp [glueTexts])
      have htext : (Predicate.member column false values cast).text =
          column ++ " = ANY(" ++ (holeText values ++ cast.text) ++ ")" := by
        simp only [Predicate.text, String.append_assoc]
      rw [htext]
      exact (h.passes.around hany hvalues).closed closes_paren
    | true =>
      have hall : glues " <> ALL(" = true := glueText (by simp [glueTexts])
      have htext : (Predicate.member column true values cast).text =
          column ++ " <> ALL(" ++ (holeText values ++ cast.text) ++ ")" := by
        simp only [Predicate.text, String.append_assoc]
      rw [htext]
      exact (h.passes.around hall hvalues).closed closes_paren
  | between column low high cast =>
    have hbetween : glues " BETWEEN " = true := glueText (by simp [glueTexts])
    have hand : glues " AND " = true := glueText (by simp [glueTexts])
    have hlow := (passes_holeText low).closed (closes_cast cast)
    have hhigh := (passes_holeText high).closed (closes_cast cast)
    have htext : (Predicate.between column low high cast).text =
        column ++ " BETWEEN " ++ (holeText low ++ cast.text) ++ " AND " ++
          (holeText high ++ cast.text) := by
      simp only [Predicate.text, String.append_assoc]
    rw [htext]
    exact (h.passes.around hbetween hlow).around hand hhigh
  | like column negated pattern =>
    have hpattern := passes_holeText pattern
    cases negated with
    | false =>
      have hlike : glues " ILIKE " = true := glueText (by simp [glueTexts])
      exact h.passes.around hlike hpattern
    | true =>
      have hcoalesce : opens "COALESCE(" = true := openText (by simp [openTexts])
      have hlike : glues ", '') NOT ILIKE " = true := glueText (by simp [glueTexts])
      exact (h.passes.opened hcoalesce).around hlike hpattern

theorem passes_condition {c : Condition} (h : ∀ p ∈ c.predicates, SafeName p.column) :
    Passes c.text [] := by
  have htexts : ∀ text ∈ c.predicates.map Predicate.text, Passes text [] := by
    intro text htext
    obtain ⟨p, hp, rfl⟩ := List.mem_map.1 htext
    exact passes_predicate (h p hp)
  cases c with
  | one p => exact passes_predicate (h p (List.mem_singleton_self p))
  | any ps =>
    have hor : glues " OR " = true := glueText (by simp [glueTexts])
    exact ((passes_join hor htexts).opened opens_paren).closed closes_paren
  | all ps =>
    have hand : glues " AND " = true := glueText (by simp [glueTexts])
    exact ((passes_join hand htexts).opened opens_paren).closed closes_paren

theorem passes_expr {e : Expr} (h : SafeName e.source) : Passes e.text [] := by
  cases e with
  | column name => exact h.passes
  | dateOf name =>
    have hdate : closes "::date" = true := closeText (by simp [closeTexts])
    exact h.passes.closed hdate
  | monthOf name =>
    have hmonth : opens "date_trunc('month', " = true := openText (by simp [openTexts])
    have hdate : closes ")::date" = true := closeText (by simp [closeTexts])
    exact (h.passes.opened hmonth).closed hdate

theorem passes_selectItem {item : SelectItem} (h : item.Safe) : Passes item.text [] := by
  cases item with
  | expr e name => exact (passes_expr h.1).around glues_as h.2.passes
  | metric tokens metricId =>
    obtain ⟨hid, expression, k, hexpression, rfl⟩ := h
    exact (passes_metricTokens hexpression k).around glues_as hid.passes

theorem passes_direction (ascending : Bool) : Passes (directionText ascending) [] := by
  cases ascending with
  | false => exact wholeText (by simp [wholeTexts, directionText])
  | true => exact wholeText (by simp [wholeTexts, directionText])

theorem passes_orderKey {key : OrderKey} (h : SafeName key.source) : Passes key.text [] := by
  cases key with
  | name s => exact h.passes
  | dateOf column =>
    have hdate : closes "::date" = true := closeText (by simp [closeTexts])
    exact h.passes.closed hdate
  | least column =>
    have hmin : opens "MIN(" = true := openText (by simp [openTexts])
    exact (h.passes.opened hmin).closed closes_paren
  | greatest column =>
    have hmax : opens "MAX(" = true := openText (by simp [openTexts])
    exact (h.passes.opened hmax).closed closes_paren

theorem passes_orderItem {item : OrderItem} (h : SafeName item.key.source) :
    Passes item.text [] :=
  (passes_orderKey h).around (glueText (by simp [glueTexts])) (passes_direction item.ascending)

/-! ### Statements -/

/-- The name behind a `FROM` is a view that is read. -/
theorem passes_from {view : String} (h : SafeName view) : Passes (" FROM " ++ view) [view] := by
  obtain ⟨⟨hlast, -, -⟩, hallowed, hmysql, hsemicolon, hviews, hafter⟩ := fixedTexts.2.2.1
  have hseam : Seam " FROM " view := .inl hlast
  obtain ⟨c, cs, hlist, halpha, -⟩ := isIdentifier_eq_true h.identifier
  have hview : (Reading.behindFrom true).views (lexemes view) = [view] := by
    have hname : String.ofList (c :: cs) = view := by rw [← hlist, String.ofList_toList]
    simp [lexemes_of_identifier h.identifier, Reading.views, Reading.captured, hlist, halpha,
      hname]
  have hboth : finds mysqlTable (lexemes " FROM " ++ lexemes view) = false :=
    found_pair_append hmysql h.passes.mysql hseam.mysql
  refine ⟨?_, ?_, ?_, ?_, ?_⟩
  · rw [lexemes_append hseam]
    intro l hl
    rcases List.mem_append.1 hl with hl | hl
    · exact hallowed l hl
    · exact h.passes.allowed l hl
  · rw [lexemes_append hseam]
    exact hboth
  · rw [String.toList_append, List.mem_append, not_or]
    exact ⟨hsemicolon, h.passes.semicolon⟩
  · rw [lexemes_append hseam, Reading.views_append, hviews, hafter, hview]
    rfl
  · rw [lexemes_append hseam, Reading.after_append, hafter, lexemes_of_identifier h.identifier]
    rfl

theorem seam_from (a view : String) : Seam a (" FROM " ++ view) := by
  obtain ⟨⟨-, hne, hhead⟩, -⟩ := fixedTexts.2.2.1
  refine .inr ?_
  rwa [String.toList_append, List.head?_append_of_ne_nil _ hne]

theorem passes_clause {keyword separator : String} (hkeyword : glues keyword = true)
    (hseparator : glues separator = true) {texts : List String}
    (h : ∀ text ∈ texts, Passes text []) : Passes (clauseText keyword separator texts) [] := by
  unfold clauseText
  split_ifs
  · exact wholeText (by simp [wholeTexts])
  · exact (passes_join hseparator h).opened (opens_of_glues hkeyword)

/-- A clause that begins with white space can stand behind anything. -/
theorem seam_clause (a : String) {keyword : String} (hkeyword : glues keyword = true)
    (separator : String) (texts : List String) : Seam a (clauseText keyword separator texts) := by
  obtain ⟨hhead, -⟩ := Bool.and_eq_true_iff.1 (closes_of_glues hkeyword)
  refine .inr ?_
  unfold clauseText
  split_ifs
  · rfl
  · rw [String.toList_append, List.head?_append_of_ne_nil _ (ne_of_glues hkeyword)]
    simpa using hhead

/-- The part of a statement in front of its limit. -/
def Statement.body (s : Statement) : String :=
  "SELECT " ++ join ", " (s.select.map SelectItem.text) ++ (" FROM " ++ s.view) ++
    clauseText " WHERE " " AND " (s.conditions.map Condition.text) ++
    clauseText " GROUP BY " ", " (s.groupBy.map Expr.text) ++
    clauseText " ORDER BY " ", " (s.orderBy.map OrderItem.text)

theorem Statement.text_eq (s : Statement) : s.text = s.body ++ " LIMIT " ++ holeText s.limit := by
  simp only [Statement.text, Statement.body, String.append_assoc]

theorem forall_mem_texts {α : Type} {text : α → String} {xs : List α}
    (h : ∀ x ∈ xs, Passes (text x) []) : ∀ t ∈ xs.map text, Passes t [] := by
  intro t ht
  obtain ⟨x, hx, rfl⟩ := List.mem_map.1 ht
  exact h x hx

theorem passes_statement {s : Statement} (h : s.Safe) : Passes s.text [s.view] := by
  have hcomma : glues ", " = true := glueText (by simp [glueTexts])
  have hand : glues " AND " = true := glueText (by simp [glueTexts])
  have hwhereWord : glues " WHERE " = true := glueText (by simp [glueTexts])
  have hgroupWord : glues " GROUP BY " = true := glueText (by simp [glueTexts])
  have horderWord : glues " ORDER BY " = true := glueText (by simp [glueTexts])
  have hlimitWord : glues " LIMIT " = true := glueText (by simp [glueTexts])
  have hselect := (passes_join hcomma
    (forall_mem_texts fun item hitem => passes_selectItem (h.select item hitem))).opened
      (g := "SELECT ") (openText (by simp [openTexts]))
  have hfrom := hselect.append (passes_from h.view) (seam_from _ s.view)
  have hwhere := hfrom.append (passes_clause hwhereWord hand
    (forall_mem_texts fun c hc => passes_condition (h.conditions c hc)))
    (seam_clause _ hwhereWord _ _)
  have hgroup := hwhere.append (passes_clause hgroupWord hcomma
    (forall_mem_texts fun e he => passes_expr (h.groupBy e he))) (seam_clause _ hgroupWord _ _)
  have horder := hgroup.append (passes_clause horderWord hcomma
    (forall_mem_texts fun item hitem => passes_orderItem (h.orderBy item hitem)))
    (seam_clause _ horderWord _ _)
  rw [s.text_eq]
  exact horder.around hlimitWord (passes_holeText s.limit)

end Forecast.Reporting
