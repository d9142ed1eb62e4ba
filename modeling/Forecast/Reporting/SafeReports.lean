import Forecast.Reporting.SafeStatements

/-!
# Reports that pass the safety rules

A report of safe statements passes in each of the three shapes and reads the views of its
statements.
-/

namespace Forecast.Reporting

open Lexemes Placeholders

/-- A word that begins otherwise than `s` neither is `s` nor begins with it. -/
theorem other_of_take {s : String} {w : List Char} {n : ℕ}
    (h : ¬ s.toList.take n <+: (w.map Char.toLower).take n) :
    isWordOf s (.word w) = false ∧ beginsWord s (.word w) = false := by
  constructor
  · refine decide_eq_false fun hword => h ?_
    rw [← hword, String.toList_ofList]
  · rw [beginsWord, ← Bool.not_eq_true, List.isPrefixOf_iff_prefix]
    exact fun hbegins => h (List.IsPrefix.take hbegins n)

/-- No reserved token begins as the name of a previous value does. -/
theorem passes_previous {metricId : String} (h : isIdentifier metricId = true) :
    Passes ("previous_" ++ metricId) [] := by
  obtain ⟨c, cs, hlist, -, hall⟩ := isIdentifier_eq_true h
  have htext : ("previous_" ++ metricId).toList =
      'p' :: 'r' :: ("evious_".toList ++ (c :: cs)) := by
    rw [String.toList_append, hlist]
    rfl
  have hword : ∀ d ∈ 'p' :: 'r' :: ("evious_".toList ++ (c :: cs)), isWordChar d = true := by
    have hfixed : ('p' :: 'r' :: "evious_".toList).all isWordChar = true := by rfl
    intro d hd
    rw [← List.cons_append, ← List.cons_append] at hd
    rcases List.mem_append.1 hd with hd | hd
    · exact List.all_eq_true.1 hfixed d hd
    · exact hall d hd
  have hlexemes : lexemes ("previous_" ++ metricId) =
      [.word ('p' :: 'r' :: ("evious_".toList ++ (c :: cs)))] := by
    rw [lexemes, htext]
    exact lex_word (List.cons_ne_nil _ _) hword
  have hother : ∀ s ∈ "from" :: (forbiddenSql ++ dangerousFunctions ++ systemTables),
      isWordOf s (.word ('p' :: 'r' :: ("evious_".toList ++ (c :: cs)))) = false ∧
        beginsWord s (.word ('p' :: 'r' :: ("evious_".toList ++ (c :: cs)))) = false := by
    exact fun s hs => other_of_take (n := 2) (reserved s (List.mem_cons_of_mem _ hs)).2
  apply passes_of_outside
  · rw [htext]
    intro hmem
    exact absurd (hword ';' hmem) (by decide)
  · simp only [hlexemes, hasDisallowed, List.any_cons, List.any_nil, isDisallowed,
      Bool.or_eq_false_iff, List.any_eq_false, Bool.not_eq_true]
    refine ⟨⟨⟨⟨fun s hs => (hother s ?_).1, fun s hs => (hother s ?_).1⟩,
      fun s hs => (hother s ?_).2⟩, trivial⟩, ?_⟩
    · simp [hs]
    · simp [hs]
    · simp [hs]
    · simp [finds, mysqlTable, found, matchesAt]
  · rw [hlexemes]
    intro l hl
    rw [List.mem_singleton.1 hl]
    exact (hother "from" List.mem_cons_self).1

section Ranking

variable {name : String}

theorem opens_current : opens "COALESCE(cur." = true := openText (by simp [openTexts])

theorem opens_previous : opens "COALESCE(prev." = true := openText (by simp [openTexts])

theorem glues_alias : glues ", 0) AS " = true := glueText (by simp [glueTexts])

theorem passes_joinKeyText (h : Passes name []) : Passes (joinKeyText name) [] := by
  have hequals : glues "::text, '__null__') = COALESCE(prev." = true :=
    glueText (by simp [glueTexts])
  have hclose : closes "::text, '__null__')" = true := closeText (by simp [closeTexts])
  exact ((h.opened opens_current).around hequals h).closed hclose

theorem passes_keyText (h : Passes name []) : Passes (keyText name) [] := by
  have hprev : glues ", prev." = true := glueText (by simp [glueTexts])
  have has : glues ") AS " = true := glueText (by simp [glueTexts])
  exact ((h.opened opens_current).around hprev h).around has h

theorem passes_rankedMetricText (h : SafeName name) :
    ∀ text ∈ rankedMetricText name, Passes text [] := by
  have hcurrent : Passes ("COALESCE(cur." ++ name ++ ", 0) AS " ++ name) [] :=
    (h.passes.opened opens_current).around glues_alias h.passes
  have hprevious : Passes ("COALESCE(prev." ++ name ++ ", 0) AS " ++ ("previous_" ++ name)) [] :=
    (h.passes.opened opens_previous).around glues_alias (passes_previous h.identifier)
  have htext : "COALESCE(prev." ++ name ++ ", 0) AS previous_" ++ name =
      "COALESCE(prev." ++ name ++ ", 0) AS " ++ ("previous_" ++ name) := by
    have halias : ", 0) AS previous_" = ", 0) AS " ++ "previous_" := rfl
    simp only [halias, String.append_assoc]
  intro text hmem
  rcases List.mem_cons.1 hmem with rfl | hmem
  · exact hcurrent
  · rw [List.mem_singleton.1 hmem, htext]
    exact hprevious

theorem passes_changeText (h : Passes name []) : Passes (changeText name) [] := by
  have hopen : opens "(COALESCE(cur." = true := openText (by simp [openTexts])
  have hminus : glues ", 0) - COALESCE(prev." = true := glueText (by simp [glueTexts])
  have hclose : closes ", 0))" = true := closeText (by simp [closeTexts])
  exact ((h.opened hopen).around hminus h).closed hclose

theorem passes_changePercentText (h : Passes name []) : Passes (changePercentText name) [] := by
  have hcase : opens "CASE WHEN COALESCE(prev." = true := openText (by simp [openTexts])
  have hthen : glues ", 0) <> 0 THEN (" = true := glueText (by simp [glueTexts])
  have habs : glues " / ABS(prev." = true := glueText (by simp [glueTexts])
  have hend : closes ") * 100)::float8 END AS change_pct" = true :=
    closeText (by simp [closeTexts])
  exact (((h.opened hcase).around hthen (passes_changeText h)).around habs h).closed hend

theorem passes_headD {names : List String} (h : ∀ n ∈ names, SafeName n) :
    Passes (names.headD "") [] := by
  cases names with
  | nil => exact wholeText (g := "") (by simp [wholeTexts])
  | cons n names => exact (h n List.mem_cons_self).passes

end Ranking

/-- The names that a report is written with have no reserved token. -/
structure Report.Safe (r : Report) : Prop where
  statements : ∀ s ∈ r.statements, s.Safe
  ranked : ∀ current previous keys metrics ascending limit,
    r = .changeRanking current previous keys metrics ascending limit →
    (∀ key ∈ keys, SafeName key) ∧ ∀ metricId ∈ metrics, SafeName metricId

theorem passes_report {r : Report} (h : r.Safe) :
    Passes r.text (r.statements.map Statement.view) := by
  cases r with
  | plain s => exact passes_statement (h.statements s (List.mem_singleton_self s))
  | comparison current previous =>
    have hcurrent := passes_statement (h.statements current List.mem_cons_self)
    have hprevious := passes_statement
      (h.statements previous (List.mem_cons_of_mem _ List.mem_cons_self))
    have hunion : glues ") current_result UNION ALL " = true := glueText (by simp [glueTexts])
    have hclose : closes ") comparison_result" = true := closeText (by simp [closeTexts])
    have hfirst := hcurrent.opened
      (g := "SELECT 'current' AS comparison_period, current_result.* FROM (")
      (openText (by simp [openTexts]))
    have hsecond := hprevious.opened
      (g := "SELECT 'comparison' AS comparison_period, comparison_result.* FROM (")
      (openText (by simp [openTexts]))
    have hboth := (hfirst.around hunion hsecond).closed hclose
    rw [← String.append_assoc] at hboth
    exact hboth
  | changeRanking current previous keys metrics ascending limit =>
    obtain ⟨hkeys, hmetrics⟩ := h.ranked current previous keys metrics ascending limit rfl
    have hcurrent := passes_statement (h.statements current List.mem_cons_self)
    have hprevious := passes_statement
      (h.statements previous (List.mem_cons_of_mem _ List.mem_cons_self))
    have hcomma : glues ", " = true := glueText (by simp [glueTexts])
    have hand : glues " AND " = true := glueText (by simp [glueTexts])
    have hchange : glues " AS change, " = true := glueText (by simp [glueTexts])
    have hfrom : glues " FROM (" = true := glueText (by simp [glueTexts])
    have hjoin : glues ") cur FULL OUTER JOIN (" = true := glueText (by simp [glueTexts])
    have hon : glues ") prev ON " = true := glueText (by simp [glueTexts])
    have horder : glues " ORDER BY change " = true := glueText (by simp [glueTexts])
    have hlimit : glues " LIMIT " = true := glueText (by simp [glueTexts])
    have hselect : opens "SELECT " = true := openText (by simp [openTexts])
    have hselected :
        Passes (join ", " (keys.map keyText ++ metrics.flatMap rankedMetricText)) [] := by
      refine passes_join hcomma fun text htext => ?_
      rcases List.mem_append.1 htext with htext | htext
      · obtain ⟨key, hkey, rfl⟩ := List.mem_map.1 htext
        exact passes_keyText (hkeys key hkey).passes
      · obtain ⟨metricId, hmetric, htext⟩ := List.mem_flatMap.1 htext
        exact passes_rankedMetricText (hmetrics metricId hmetric) text htext
    have hjoined : Passes (join " AND " (keys.map joinKeyText)) [] :=
      passes_join hand (forall_mem_texts fun key hkey => passes_joinKeyText (hkeys key hkey).passes)
    have hprimary := passes_headD hmetrics
    have hchanges := ((hselected.opened hselect).around hcomma (passes_changeText hprimary)).around
      hchange (passes_changePercentText hprimary)
    have hperiods := (hchanges.around hfrom hcurrent).around hjoin hprevious
    have hranked := ((hperiods.around hon hjoined).around horder
      (passes_direction ascending)).around hcomma (passes_headD hkeys)
    exact hranked.around hlimit (passes_holeText limit)

end Forecast.Reporting
