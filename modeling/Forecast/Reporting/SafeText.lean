import Forecast.Reporting.SqlSafety
import Forecast.Reporting.SqlText

/-!
# Texts that pass the safety rules

`Passes` says of a piece of SQL that the rules find nothing forbidden in it and which views they
read there. Pieces that meet at a character that belongs to no word pass together, so a statement
passes when the names and the expressions that it is written with do.
-/

namespace Forecast.Reporting

open Lexemes Placeholders

structure Passes (text : String) (views : List String) : Prop where
  allowed : ∀ l ∈ lexemes text, isDisallowed l = false
  mysql : finds mysqlTable (lexemes text) = false
  semicolon : ';' ∉ text.toList
  views_eq : Reading.outside.views (lexemes text) = views
  after_eq : Reading.outside.after (lexemes text) = .outside

/-- Two texts that meet at a character of no word, which is no dot behind a word. -/
def Seam (a b : String) : Prop :=
  a.toList.getLast?.any isWordChar = false ∨
    b.toList.head?.any (fun c => isWordChar c || c = '.') = false

section Append

variable {a b g : String} {views views' : List String}

theorem Seam.apart (h : Seam a b) : Apart isWordChar a.toList b.toList := by
  rcases h with hlast | hhead
  · exact .inl hlast
  · refine .inr ?_
    cases hb : b.toList.head? with
    | none => rfl
    | some c =>
      rw [hb] at hhead
      simpa using (Bool.or_eq_false_iff.1 hhead).1

theorem lexemes_append (h : Seam a b) : lexemes (a ++ b) = lexemes a ++ lexemes b := by
  unfold lexemes
  rw [String.toList_append, lex_append h.apart]

theorem Seam.mysql (h : Seam a b) :
    (lexemes a).getLast?.any (isWordOf "mysql") = false ∨
      (lexemes b).head?.any (isChar '.') = false := by
  rcases h with hlast | hhead
  · refine .inl ?_
    cases hl : (lexemes a).getLast? with
    | none => rfl
    | some l =>
      cases l with
      | word w => exact absurd hl (getLast?_lex_ne_word hlast w)
      | other c => rfl
  · refine .inr ?_
    cases hb : b.toList with
    | nil =>
      rw [lexemes, hb]
      rfl
    | cons c cs =>
      rw [hb] at hhead
      have hc := Bool.or_eq_false_iff.1 hhead
      rw [lexemes, hb, lex_cons_of_not hc.1]
      simpa [isChar] using hc.2

theorem Passes.append (ha : Passes a views) (hb : Passes b views') (h : Seam a b) :
    Passes (a ++ b) (views ++ views') where
  allowed := by
    rw [lexemes_append h]
    intro l hl
    rcases List.mem_append.1 hl with hl | hl
    · exact ha.allowed l hl
    · exact hb.allowed l hl
  mysql := by
    rw [lexemes_append h]
    exact found_pair_append ha.mysql hb.mysql h.mysql
  semicolon := by
    rw [String.toList_append, List.mem_append, not_or]
    exact ⟨ha.semicolon, hb.semicolon⟩
  views_eq := by
    rw [lexemes_append h, Reading.views_append, ha.after_eq, ha.views_eq, hb.views_eq]
  after_eq := by
    rw [lexemes_append h, Reading.after_append, ha.after_eq, hb.after_eq]

/-- The rules applied to a fixed piece that reads no view. -/
def passes (text : String) : Bool :=
  (lexemes text).all (fun l => !isDisallowed l) && !finds mysqlTable (lexemes text) &&
    !text.toList.contains ';' && Reading.outside.views (lexemes text) = [] &&
    Reading.outside.after (lexemes text) = .outside

theorem passes_eq_true : passes a = true ↔ Passes a [] := by
  simp only [passes, Bool.and_eq_true, decide_eq_true_eq, Bool.not_eq_true', List.all_eq_true,
    List.contains_eq_mem, decide_eq_false_iff_not]
  constructor
  · rintro ⟨⟨⟨⟨hallowed, hmysql⟩, hsemicolon⟩, hviews⟩, hafter⟩
    exact ⟨hallowed, hmysql, hsemicolon, hviews, hafter⟩
  · intro h
    exact ⟨⟨⟨⟨h.allowed, h.mysql⟩, h.semicolon⟩, h.views_eq⟩, h.after_eq⟩

/-- A fixed piece that may stand in front of any other. -/
def opens (g : String) : Bool := !g.toList.getLast?.any isWordChar && passes g

/-- A fixed piece that may stand behind any other. -/
def closes (g : String) : Bool :=
  (!g.toList.head?.any fun c => isWordChar c || c = '.') && passes g

/-- A fixed piece that may stand between any two others. -/
def glues (g : String) : Bool :=
  g ≠ "" && (!g.toList.getLast?.any isWordChar) && closes g

theorem seam_of_opens (hg : opens g = true) (b : String) : Seam g b := by
  obtain ⟨hlast, -⟩ := Bool.and_eq_true_iff.1 hg
  exact .inl (by simpa using hlast)

theorem seam_of_closes (a : String) (hg : closes g = true) : Seam a g := by
  obtain ⟨hhead, -⟩ := Bool.and_eq_true_iff.1 hg
  exact .inr (by simpa using hhead)

theorem closes_of_glues (hg : glues g = true) : closes g = true := (Bool.and_eq_true_iff.1 hg).2

theorem opens_of_glues (hg : glues g = true) : opens g = true := by
  obtain ⟨hlast, hcloses⟩ := Bool.and_eq_true_iff.1 hg
  exact Bool.and_eq_true_iff.2
    ⟨(Bool.and_eq_true_iff.1 hlast).2, (Bool.and_eq_true_iff.1 hcloses).2⟩

theorem ne_of_glues (hg : glues g = true) : g.toList ≠ [] := by
  obtain ⟨hlast, -⟩ := Bool.and_eq_true_iff.1 hg
  have hne := of_decide_eq_true (Bool.and_eq_true_iff.1 hlast).1
  exact fun hlist => hne (String.toList_eq_nil_iff.1 hlist)

theorem seam_of_glues (a b : String) (hg : glues g = true) : Seam (a ++ g) b := by
  rcases seam_of_opens (opens_of_glues hg) b with hlast | hhead
  · refine .inl ?_
    rwa [String.toList_append, List.getLast?_append_of_ne_nil _ (ne_of_glues hg)]
  · exact .inr hhead

theorem Passes.opened (hg : opens g = true) (hb : Passes b views) : Passes (g ++ b) views :=
  (passes_eq_true.1 (Bool.and_eq_true_iff.1 hg).2).append hb (seam_of_opens hg b)

theorem Passes.closed (ha : Passes a views) (hg : closes g = true) : Passes (a ++ g) views := by
  have happend := ha.append (passes_eq_true.1 (Bool.and_eq_true_iff.1 hg).2) (seam_of_closes a hg)
  rwa [List.append_nil] at happend

theorem Passes.around (ha : Passes a views) (hg : glues g = true) (hb : Passes b views') :
    Passes (a ++ g ++ b) (views ++ views') :=
  (ha.closed (closes_of_glues hg)).append hb (seam_of_glues a b hg)

end Append

/-! ### The fixed pieces -/

/-- What stands between the column and the placeholder of a comparison. -/
def operatorTexts : List String :=
  Operator.valid.map fun operator => " " ++ operator.text ++ " $"

/-- What stands between two other pieces. -/
def glueTexts : List String :=
  [" ", ", ", " AND ", " OR ", " = ANY(", " <> ALL(", " BETWEEN ", " ILIKE ", ", '') NOT ILIKE ",
    " AS ", " WHERE ", " GROUP BY ", " ORDER BY ", " LIMIT ",
    "::text, '__null__') = COALESCE(prev.", ", prev.", ") AS ", ", 0) AS ",
    ", 0) - COALESCE(prev.", ", 0) <> 0 THEN (", " / ABS(prev.", " AS change, ", " FROM (",
    ") cur FULL OUTER JOIN (", ") prev ON ", " ORDER BY change ", ") current_result UNION ALL "]

/-- What stands in front of another piece. -/
def openTexts : List String :=
  ["$", "(", "COALESCE(", "date_trunc('month', ", "MIN(", "MAX(", "SELECT ", "COALESCE(cur.",
    "COALESCE(prev.", "(COALESCE(cur.", "CASE WHEN COALESCE(prev.",
    "SELECT 'current' AS comparison_period, current_result.* FROM (",
    "SELECT 'comparison' AS comparison_period, comparison_result.* FROM ("]

/-- What stands behind another piece. -/
def closeTexts : List String :=
  [")", "::uuid", "::date", "::int[]", "::uuid[]", "::date[]", "", ")::date",
    "::text, '__null__')", ", 0))", ") * 100)::float8 END AS change_pct", ") comparison_result"]

/-- What stands alone. -/
def wholeTexts : List String := ["", "ASC", "DESC"]

/-- The pieces in which the rules look for something, with their lexemes. -/
def lexedTexts : List (String × List Lexeme) :=
  [("$", [.other '$']), (")", [.other ')']), ("SELECT ", [.word "SELECT".toList, .other ' ']),
    (" LIMIT ", [.other ' ', .word "LIMIT".toList, .other ' ']),
    (" = ANY(", [.other ' ', .other '=', .other ' ', .word "ANY".toList, .other '('])]

/-- The words that the rules look for, with the way they are written. -/
def keywords : List (String × String) := [("select", "SELECT"), ("limit", "LIMIT"), ("any", "ANY")]

theorem fixedTexts :
    ((∀ g ∈ glueTexts, glues g = true) ∧ (∀ g ∈ operatorTexts, glues g = true) ∧
      (∀ g ∈ openTexts, opens g = true) ∧ (∀ g ∈ closeTexts, closes g = true) ∧
      ∀ g ∈ wholeTexts, passes g = true) ∧
    ((∀ x ∈ lexedTexts, lexemes x.1 = x.2) ∧
      ∀ x ∈ keywords, isWordOf x.1 (.word x.2.toList) = true) ∧
    ((" FROM ".toList.getLast?.any isWordChar = false ∧ " FROM ".toList ≠ [] ∧
        (" FROM ".toList.head?.any fun c => isWordChar c || c = '.') = false) ∧
      (∀ l ∈ lexemes " FROM ", isDisallowed l = false) ∧
      finds mysqlTable (lexemes " FROM ") = false ∧ ';' ∉ " FROM ".toList ∧
      Reading.outside.views (lexemes " FROM ") = [] ∧
      Reading.outside.after (lexemes " FROM ") = .behindFrom true) ∧
    ("SELECT ".toList <+:
        "SELECT 'current' AS comparison_period, current_result.* FROM (".toList ∧
      ") comparison_result".toList.getLast?.any JsText.isTrimmed = false ∧
      ") comparison_result".toList ≠ []) := by
  decide +kernel

section Pieces

variable {g : String}

theorem glueText (h : g ∈ glueTexts) : glues g = true := fixedTexts.1.1 g h

theorem operatorText (h : g ∈ operatorTexts) : glues g = true := fixedTexts.1.2.1 g h

theorem openText (h : g ∈ openTexts) : opens g = true := fixedTexts.1.2.2.1 g h

theorem closeText (h : g ∈ closeTexts) : closes g = true := fixedTexts.1.2.2.2.1 g h

theorem wholeText (h : g ∈ wholeTexts) : Passes g [] :=
  passes_eq_true.1 (fixedTexts.1.2.2.2.2 g h)

theorem lexedText {ls : List Lexeme} (h : (g, ls) ∈ lexedTexts) : lexemes g = ls :=
  fixedTexts.2.1.1 (g, ls) h

theorem keyword {written : String} (h : (g, written) ∈ keywords) :
    isWordOf g (.word written.toList) = true :=
  fixedTexts.2.1.2 (g, written) h

-- what stands behind a `FROM` is taken for a view
example : passes " FROM dual" = false := by decide +kernel

theorem passes_join (hg : glues g = true) {texts : List String}
    (h : ∀ text ∈ texts, Passes text []) : Passes (join g texts) [] := by
  induction texts with
  | nil => exact wholeText (g := "") (by simp [wholeTexts])
  | cons text texts ih =>
    have htext := h text List.mem_cons_self
    cases texts with
    | nil => exact htext
    | cons text' texts => exact htext.around hg (ih fun t ht => h t (List.mem_cons_of_mem _ ht))

end Pieces

/-! ### Names, numbers and expressions -/

def hasForbiddenToken (text : String) : Bool :=
  text.toList.contains ';' || hasDisallowed (lexemes text)

/-- A text with a forbidden token or with a `FROM`, behind which a view would be read. -/
def hasReservedToken (text : String) : Bool :=
  hasForbiddenToken text || (lexemes text).any (isWordOf "from")

structure SafeName (name : String) : Prop where
  identifier : isIdentifier name = true
  allowed : hasReservedToken name = false

theorem isWordChar_of_isDigit {c : Char} (h : c.isDigit = true) : isWordChar c = true := by
  simp [isWordChar, Char.isAlphanum, h]

theorem isIdentifier_eq_true {name : String} (h : isIdentifier name = true) :
    ∃ c cs, name.toList = c :: cs ∧ c.isAlpha = true ∧ ∀ d ∈ c :: cs, isWordChar d = true := by
  unfold isIdentifier at h
  cases hlist : name.toList with
  | nil =>
    rw [hlist] at h
    cases h
  | cons c cs =>
    rw [hlist] at h
    obtain ⟨halpha, hall⟩ := Bool.and_eq_true_iff.1 h
    refine ⟨c, cs, rfl, halpha, fun d hd => ?_⟩
    rcases List.mem_cons.1 hd with rfl | hd
    · simp [isWordChar, Char.isAlphanum, halpha]
    · exact List.all_eq_true.1 hall d hd

theorem lexemes_of_identifier {name : String} (h : isIdentifier name = true) :
    lexemes name = [.word name.toList] := by
  obtain ⟨c, cs, hlist, -, hall⟩ := isIdentifier_eq_true h
  rw [lexemes, hlist]
  exact lex_word (List.cons_ne_nil c cs) hall

/-- A text without such tokens leaves the search for views where it was. -/
theorem passes_of_outside {text : String} (hsemicolon : ';' ∉ text.toList)
    (hallowed : hasDisallowed (lexemes text) = false)
    (hfrom : ∀ l ∈ lexemes text, isWordOf "from" l = false) : Passes text [] := by
  obtain ⟨hwords, hmysql⟩ := Bool.or_eq_false_iff.1 hallowed
  have houtside : ∀ ls : List Lexeme, (∀ l ∈ ls, isWordOf "from" l = false) →
      Reading.outside.views ls = [] ∧ Reading.outside.after ls = .outside := by
    intro ls hls
    induction ls with
    | nil => exact ⟨rfl, rfl⟩
    | cons l ls ih =>
      have hnext : Reading.outside.next l = .outside := by
        simp [Reading.next, hls l List.mem_cons_self]
      obtain ⟨hviews, hafter⟩ := ih fun m hm => hls m (List.mem_cons_of_mem l hm)
      constructor
      · rw [Reading.views, hnext, hviews]
        rfl
      · rw [Reading.after, List.foldl_cons, hnext]
        exact hafter
  obtain ⟨hviews, hafter⟩ := houtside (lexemes text) hfrom
  exact ⟨fun l hl => by simpa using List.any_eq_false.1 hwords l hl, hmysql, hsemicolon, hviews,
    hafter⟩

theorem passes_of_noReservedToken {text : String} (h : hasReservedToken text = false) :
    Passes text [] := by
  simp only [hasReservedToken, hasForbiddenToken, Bool.or_eq_false_iff, List.contains_eq_mem,
    decide_eq_false_iff_not] at h
  obtain ⟨⟨hsemicolon, hallowed⟩, hfrom⟩ := h
  exact passes_of_outside hsemicolon hallowed fun l hl => by
    simpa using List.any_eq_false.1 hfrom l hl

theorem SafeName.passes {name : String} (h : SafeName name) : Passes name [] :=
  passes_of_noReservedToken h.allowed

end Forecast.Reporting
