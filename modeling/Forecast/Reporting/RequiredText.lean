import Forecast.Reporting.SafeReports

/-!
# What the safety rules require

The lexemes of a condition stand together in its statement's and those of a statement in its
report's, so a restriction and a limit are found wherever they were written.
-/

namespace Forecast.Reporting

open Lexemes Placeholders

/-- The lexemes of a piece stand together in the text. -/
def Within (piece text : String) : Prop := lexemes piece <:+: lexemes text

namespace Within

variable {piece text text' a b g : String}

theorem refl (text : String) : Within text text := List.infix_rfl

theorem trans (h : Within piece text) (h' : Within text text') : Within piece text' :=
  List.IsInfix.trans h h'

theorem append_left (h : Within piece a) (hseam : Seam a b) : Within piece (a ++ b) := by
  unfold Within
  rw [lexemes_append hseam]
  exact List.IsInfix.trans h (List.prefix_append _ _).isInfix

theorem append_right (h : Within piece b) (hseam : Seam a b) : Within piece (a ++ b) := by
  unfold Within
  rw [lexemes_append hseam]
  exact List.IsInfix.trans h (List.suffix_append _ _).isInfix

theorem opened (h : Within piece b) (hg : opens g = true) : Within piece (g ++ b) :=
  h.append_right (seam_of_opens hg b)

theorem closed (h : Within piece a) (hg : closes g = true) : Within piece (a ++ g) :=
  h.append_left (seam_of_closes a hg)

theorem around_left (h : Within piece a) (hg : glues g = true) (b : String) :
    Within piece (a ++ g ++ b) :=
  (h.closed (closes_of_glues hg)).append_left (seam_of_glues a b hg)

theorem around_right (h : Within piece b) (hg : glues g = true) (a : String) :
    Within piece (a ++ g ++ b) :=
  h.append_right (seam_of_glues a b hg)

theorem join (hg : glues g = true) {texts : List String} (htext : text ∈ texts) :
    Within text (Reporting.join g texts) := by
  induction texts with
  | nil => cases htext
  | cons first texts ih =>
    cases texts with
    | nil =>
      rw [List.mem_singleton.1 htext]
      exact .refl first
    | cons second texts =>
      rcases List.mem_cons.1 htext with rfl | htext
      · exact (refl text).around_left hg _
      · exact (ih htext).around_right hg first

end Within

/-! ### What stands in a statement and in a report -/

theorem within_clause {keyword separator text : String} (hkeyword : glues keyword = true)
    (hseparator : glues separator = true) {texts : List String} (htext : text ∈ texts) :
    Within text (clauseText keyword separator texts) := by
  unfold clauseText
  rw [if_neg (List.ne_nil_of_mem htext)]
  exact (Within.join hseparator htext).opened (opens_of_glues hkeyword)

theorem within_condition {s : Statement} {c : Condition} (hc : c ∈ s.conditions) :
    Within c.text s.text := by
  have hand : glues " AND " = true := glueText (by simp [glueTexts])
  have hwhere : glues " WHERE " = true := glueText (by simp [glueTexts])
  have hgroup : glues " GROUP BY " = true := glueText (by simp [glueTexts])
  have horder : glues " ORDER BY " = true := glueText (by simp [glueTexts])
  have hlimit : glues " LIMIT " = true := glueText (by simp [glueTexts])
  have hclause : Within c.text (clauseText " WHERE " " AND " (s.conditions.map Condition.text)) :=
    within_clause hwhere hand (List.mem_map_of_mem hc)
  rw [s.text_eq]
  refine Within.around_left ?_ hlimit _
  refine Within.append_left ?_ (seam_clause _ horder _ _)
  refine Within.append_left ?_ (seam_clause _ hgroup _ _)
  exact hclause.append_right (seam_clause _ hwhere _ _)

theorem within_select {s : Statement} {item : SelectItem} (hitem : item ∈ s.select) :
    Within item.text s.text := by
  have hcomma : glues ", " = true := glueText (by simp [glueTexts])
  have hwhere : glues " WHERE " = true := glueText (by simp [glueTexts])
  have hgroup : glues " GROUP BY " = true := glueText (by simp [glueTexts])
  have horder : glues " ORDER BY " = true := glueText (by simp [glueTexts])
  have hlimit : glues " LIMIT " = true := glueText (by simp [glueTexts])
  have hselect : opens "SELECT " = true := openText (by simp [openTexts])
  have hjoined : Within item.text (Reporting.join ", " (s.select.map SelectItem.text)) :=
    Within.join hcomma (List.mem_map_of_mem hitem)
  rw [s.text_eq]
  refine Within.around_left ?_ hlimit _
  refine Within.append_left ?_ (seam_clause _ horder _ _)
  refine Within.append_left ?_ (seam_clause _ hgroup _ _)
  refine Within.append_left ?_ (seam_clause _ hwhere _ _)
  exact (hjoined.opened hselect).append_left (seam_from _ s.view)

theorem within_groupBy {s : Statement} {e : Expr} (he : e ∈ s.groupBy) : Within e.text s.text := by
  have hcomma : glues ", " = true := glueText (by simp [glueTexts])
  have hgroup : glues " GROUP BY " = true := glueText (by simp [glueTexts])
  have horder : glues " ORDER BY " = true := glueText (by simp [glueTexts])
  have hlimit : glues " LIMIT " = true := glueText (by simp [glueTexts])
  have hclause : Within e.text (clauseText " GROUP BY " ", " (s.groupBy.map Expr.text)) :=
    within_clause hgroup hcomma (List.mem_map_of_mem he)
  rw [s.text_eq]
  refine Within.around_left ?_ hlimit _
  refine Within.append_left ?_ (seam_clause _ horder _ _)
  exact hclause.append_right (seam_clause _ hgroup _ _)

theorem within_statement {r : Report} {s : Statement} (hs : s ∈ r.statements) :
    Within s.text r.text := by
  cases r with
  | plain one =>
    rw [List.mem_singleton.1 hs]
    exact .refl one.text
  | comparison current previous =>
    have hunion : glues ") current_result UNION ALL " = true := glueText (by simp [glueTexts])
    have hclose : closes ") comparison_result" = true := closeText (by simp [closeTexts])
    have hfirst : opens "SELECT 'current' AS comparison_period, current_result.* FROM (" = true :=
      openText (by simp [openTexts])
    have hsecond :
        opens "SELECT 'comparison' AS comparison_period, comparison_result.* FROM (" = true :=
      openText (by simp [openTexts])
    have hboth : Within s.text
        ("SELECT 'current' AS comparison_period, current_result.* FROM (" ++ current.text ++
          ") current_result UNION ALL " ++
          ("SELECT 'comparison' AS comparison_period, comparison_result.* FROM (" ++
            previous.text)) := by
      rcases List.mem_cons.1 hs with rfl | hs
      · exact ((Within.refl s.text).opened hfirst).around_left hunion _
      · rw [List.mem_singleton.1 hs]
        exact ((Within.refl previous.text).opened hsecond).around_right hunion _
    have hreport := hboth.closed hclose
    rw [← String.append_assoc] at hreport
    exact hreport
  | changeRanking current previous keys metrics ascending limit =>
    have hcomma : glues ", " = true := glueText (by simp [glueTexts])
    have hfrom : glues " FROM (" = true := glueText (by simp [glueTexts])
    have hjoin : glues ") cur FULL OUTER JOIN (" = true := glueText (by simp [glueTexts])
    have hon : glues ") prev ON " = true := glueText (by simp [glueTexts])
    have horder : glues " ORDER BY change " = true := glueText (by simp [glueTexts])
    have hlimit : glues " LIMIT " = true := glueText (by simp [glueTexts])
    have hperiods : ∀ columns : String, Within s.text
        (columns ++ " FROM (" ++ current.text ++ ") cur FULL OUTER JOIN (" ++ previous.text) := by
      intro columns
      rcases List.mem_cons.1 hs with rfl | hs
      · exact ((Within.refl s.text).around_right hfrom columns).around_left hjoin _
      · rw [List.mem_singleton.1 hs]
        exact (Within.refl previous.text).around_right hjoin _
    exact ((((hperiods _).around_left hon _).around_left horder _).around_left hcomma
      _).around_left hlimit _

theorem mem_viewMatches {piece text view : String}
    (hpiece : ∀ reading : Reading, view ∈ reading.views (lexemes piece))
    (h : Within piece text) : view ∈ viewMatches (lexemes text) := by
  obtain ⟨before, rest, htext⟩ := h
  rw [viewMatches, ← htext, Reading.views_append, Reading.views_append]
  exact List.mem_append_left _ (List.mem_append_right _ (hpiece _))

/-! ### Limits and restrictions -/

section Finds

variable {text : String}

theorem finds_of_within {piece : String} {items : List Item}
    (hmatch : ∀ rest, ∃ skipped kept, lexemes piece = skipped ++ kept ∧
      matchesAt JsText.isTrimmed items (kept ++ rest) = true)
    (h : Within piece text) : finds items (lexemes text) = true := by
  obtain ⟨before, rest, htext⟩ := h
  obtain ⟨skipped, kept, hpiece, hkept⟩ := hmatch rest
  refine found_of_suffix hkept ⟨before ++ skipped, ?_⟩
  rw [← htext, hpiece, List.append_assoc, List.append_assoc, List.append_assoc]

theorem isNumber_toString (n : ℕ) : isNumber (.word (toString n).toList) = true :=
  List.all_eq_true.2 (digits_toString n).2

theorem lexemes_holeText (hole : Hole) :
    lexemes (holeText hole) = [.other '$', .word (toString hole.index).toList] := by
  have hdollar : lexemes "$" = [.other '$'] := lexedText (by simp [lexedTexts])
  rw [holeText, lexemes_append (seam_of_opens (openText (by simp [openTexts])) _), hdollar,
    lexemes_number]
  rfl

theorem finds_limit {s : Statement} (h : Within s.text text) :
    finds limitPattern (lexemes text) = true := by
  have hlimit : glues " LIMIT " = true := glueText (by simp [glueTexts])
  have hwords : lexemes " LIMIT " = [.other ' ', .word "LIMIT".toList, .other ' '] :=
    lexedText (by simp [lexedTexts])
  have hlexemes : lexemes s.text = lexemes s.body ++ [.other ' ', .word "LIMIT".toList, .other ' ',
      .other '$', .word (toString s.limit.index).toList] := by
    rw [s.text_eq, lexemes_append (seam_of_glues _ _ hlimit),
      lexemes_append (seam_of_closes _ (closes_of_glues hlimit)), hwords, lexemes_holeText]
    simp
  refine finds_of_within (fun rest => ⟨lexemes s.body ++ [.other ' '], [.word "LIMIT".toList,
    .other ' ', .other '$', .word (toString s.limit.index).toList], ?_, ?_⟩) h
  · rw [hlexemes]
    simp
  · have hword : isWordOf "limit" (.word "LIMIT".toList) = true := keyword (by simp [keywords])
    have hspace : JsText.isTrimmed ' ' = true := by decide
    have hdollar : JsText.isTrimmed '$' = false := by decide
    have hnumber := isNumber_toString s.limit.index
    generalize Lexeme.word "LIMIT".toList = limit at hword ⊢
    generalize Lexeme.word (toString s.limit.index).toList = number at hnumber ⊢
    simp [limitPattern, matchesAt, hword, hnumber, hspace, hdollar, isChar]

-- a limit is a parameter
example : finds limitPattern (lexemes "SELECT item FROM sales LIMIT 5") = false := by
  decide +kernel

/-- A restriction is found as it is written. -/
theorem finds_any {column type : String} {cast : Cast} (hid : isIdentifier column = true)
    (hcolumn : isWordOf column (.word column.toList) = true)
    (htype : isWordOf type (.word type.toList) = true)
    (hcast : lexemes cast.text =
      [.other ':', .other ':', .word type.toList, .other '[', .other ']']) {hole : Hole}
    (h : Within (Condition.one (.member column false hole cast)).text text) :
    finds (anyPattern column type) (lexemes text) = true := by
  have hany : glues " = ANY(" = true := glueText (by simp [glueTexts])
  have hwords : lexemes " = ANY(" = [.other ' ', .other '=', .other ' ', .word "ANY".toList,
      .other '('] := lexedText (by simp [lexedTexts])
  have hparen : lexemes ")" = [.other ')'] := lexedText (by simp [lexedTexts])
  have hlexemes : lexemes (Condition.one (.member column false hole cast)).text =
      [.word column.toList, .other ' ', .other '=', .other ' ', .word "ANY".toList, .other '(',
        .other '$', .word (toString hole.index).toList, .other ':', .other ':',
        .word type.toList, .other '[', .other ']', .other ')'] := by
    rw [Condition.text, Predicate.text, lexemes_append (seam_of_closes _ closes_paren),
      lexemes_append (seam_of_closes _ (closes_cast cast)),
      lexemes_append (seam_of_glues _ _ hany),
      lexemes_append (seam_of_closes _ (closes_of_glues hany)), lexemes_of_identifier hid, hwords,
      lexemes_holeText, hcast, hparen]
    rfl
  refine finds_of_within (fun rest => ⟨[], _, hlexemes, ?_⟩) h
  have hword : isWordOf "any" (.word "ANY".toList) = true := keyword (by simp [keywords])
  have hspace : JsText.isTrimmed ' ' = true := by decide
  have hequals : JsText.isTrimmed '=' = false := by decide
  have hnumber := isNumber_toString hole.index
  have hblank : Lexeme.blank JsText.isTrimmed (.word "ANY".toList) = false := rfl
  generalize Lexeme.word "ANY".toList = word at hword hblank ⊢
  generalize Lexeme.word (toString hole.index).toList = number at hnumber ⊢
  simp [anyPattern, matchesAt, hcolumn, htype, hword, hnumber, hblank, hspace, hequals,
    isChar]

end Finds

/-! ### Beginning and end -/

theorem prefix_append {a : String} {cs : List Char} (h : cs <+: a.toList) (b : String) :
    cs <+: (a ++ b).toList := by
  rw [String.toList_append]
  exact h.trans (List.prefix_append _ _)

theorem select_statement (s : Statement) : "SELECT ".toList <+: s.text.toList := by
  unfold Statement.text
  iterate 8 apply prefix_append
  exact List.prefix_rfl

/-- A report begins with `SELECT`, whatever its shape. -/
theorem select_report (r : Report) : "SELECT ".toList <+: r.text.toList := by
  cases r with
  | plain s => exact select_statement s
  | comparison current previous =>
    have hfirst := fixedTexts.2.2.2.1
    unfold Report.text
    iterate 5 apply prefix_append
    exact hfirst
  | changeRanking current previous keys metrics ascending limit =>
    unfold Report.text
    iterate 17 apply prefix_append
    exact List.prefix_rfl

theorem isTrimmed_of_isDigit {c : Char} (h : c.isDigit = true) : JsText.isTrimmed c = false := by
  have hlow : 48 ≤ c.toNat ∧ c.toNat ≤ 57 := by
    simp only [Char.isDigit, Bool.and_eq_true, decide_eq_true_eq, UInt32.le_iff_toNat_le] at h
    exact h
  simp only [JsText.isTrimmed, Bool.or_eq_false_iff, Bool.and_eq_false_iff, decide_eq_false_iff_not,
    List.contains_eq_mem, List.mem_cons, List.not_mem_nil, or_false]
  omega

theorem getLast?_holeText (a : String) (hole : Hole) :
    (a ++ holeText hole).toList.getLast?.any JsText.isTrimmed = false := by
  obtain ⟨hne, hdigits⟩ := digits_toString hole.index
  rw [holeText, ← String.append_assoc, String.toList_append,
    List.getLast?_append_of_ne_nil _ hne, List.getLast?_eq_some_getLast hne, Option.any_some]
  exact isTrimmed_of_isDigit (hdigits _ (List.getLast_mem hne))

/-- A report ends with a digit or with a name. -/
theorem getLast?_report (r : Report) : r.text.toList.getLast?.any JsText.isTrimmed = false := by
  cases r with
  | plain s => exact getLast?_holeText _ s.limit
  | comparison current previous =>
    obtain ⟨-, hlast, hne⟩ := fixedTexts.2.2.2
    unfold Report.text
    rw [String.toList_append, List.getLast?_append_of_ne_nil _ hne]
    exact hlast
  | changeRanking current previous keys metrics ascending limit => exact getLast?_holeText _ limit

theorem trim_report (r : Report) : JsText.trim r.text = r.text := by
  have htrim : JsText.trimChars r.text.toList = r.text.toList := by
    apply JsText.trimChars_eq_self
    · intro c hc
      obtain ⟨rest, hrest⟩ := select_report r
      rw [← hrest] at hc
      obtain rfl : 'S' = c := by simpa using hc
      decide
    · intro hne
      have hlast := getLast?_report r
      rwa [List.getLast?_eq_some_getLast hne, Option.any_some] at hlast
  rw [JsText.trim, htrim, String.ofList_toList]

theorem head?_report (r : Report) : (lexemes r.text).head?.any (isWordOf "select") = true := by
  obtain ⟨rest, hrest⟩ := select_report r
  have hwords : lexemes "SELECT " = [.word "SELECT".toList, .other ' '] :=
    lexedText (by simp [lexedTexts])
  have hselect : isWordOf "select" (.word "SELECT".toList) = true := keyword (by simp [keywords])
  have hopens : opens "SELECT " = true := openText (by simp [openTexts])
  have hseam : Apart isWordChar "SELECT ".toList rest := by
    simpa using (seam_of_opens hopens (String.ofList rest)).apart
  have hlexemes : lexemes r.text = lexemes "SELECT " ++ lex isWordChar rest := by
    rw [lexemes, ← hrest, lex_append hseam]
    rfl
  rw [hlexemes, hwords, List.cons_append, List.head?_cons, Option.any_some]
  exact hselect

end Forecast.Reporting
