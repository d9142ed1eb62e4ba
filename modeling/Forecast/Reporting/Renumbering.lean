import Forecast.Reporting.SafeText

/-!
# Metrics with placeholders of their own

The text of a metric may hold a `$` and digits, which are read and written again as a number and are
raised with the placeholders of the statement. A word that begins with a digit means nothing to the
safety rules, so they find in the new text what they find in the old one.
-/

namespace Forecast.Reporting

open Lexemes Placeholders

/-! ### Words that begin with a digit -/

theorem toLower_of_isDigit {c : Char} (h : c.isDigit = true) : c.toLower = c := by
  have hlow : c.val.toNat ≤ 57 := by
    simp only [Char.isDigit, Bool.and_eq_true, decide_eq_true_eq, UInt32.le_iff_toNat_le] at h
    exact h.2
  unfold Char.toLower
  rw [dif_neg]
  rintro ⟨hletter, -⟩
  have hhigh : 65 ≤ c.val.toNat := UInt32.le_iff_toNat_le.1 hletter
  omega

section Digits

variable {c : Char} {w : List Char}

theorem isWordOf_of_isDigit {s : String} (hs : s.toList.head?.any Char.isDigit = false)
    (hc : c.isDigit = true) : isWordOf s (.word (c :: w)) = false := by
  refine decide_eq_false fun hword => ?_
  have hlist : c.toLower :: w.map Char.toLower = s.toList := by
    rw [← hword, String.toList_ofList, List.map_cons]
  rw [← hlist, toLower_of_isDigit hc] at hs
  simp [hc] at hs

theorem beginsWord_of_isDigit {s : String} (hne : s ≠ "")
    (hs : s.toList.head?.any Char.isDigit = false) (hc : c.isDigit = true) :
    beginsWord s (.word (c :: w)) = false := by
  cases hlist : s.toList with
  | nil => exact absurd (String.toList_eq_nil_iff.1 hlist) hne
  | cons d ds =>
    rw [hlist] at hs
    have hne : d ≠ c := by
      rintro rfl
      simp [hc] at hs
    simp [beginsWord, hlist, toLower_of_isDigit hc, List.isPrefixOf, hne]

/-- No word that the rules look for begins with a digit or as the name of a previous value. -/
theorem reserved : ∀ s ∈ "mysql" :: "from" :: (forbiddenSql ++ dangerousFunctions ++ systemTables),
    (s ≠ "" ∧ s.toList.head?.any Char.isDigit = false) ∧ ¬ s.toList.take 2 <+: ['p', 'r'] := by
  decide +kernel

theorem isDisallowed_of_isDigit (hc : c.isDigit = true) :
    isDisallowed (.word (c :: w)) = false := by
  simp only [isDisallowed, Bool.or_eq_false_iff, List.any_eq_false, Bool.not_eq_true]
  refine ⟨⟨fun s hs => ?_, fun s hs => ?_⟩, fun s hs => ?_⟩
  · exact isWordOf_of_isDigit (reserved s (by simp [hs])).1.2 hc
  · exact isWordOf_of_isDigit (reserved s (by simp [hs])).1.2 hc
  · obtain ⟨hne, hdigit⟩ := (reserved s (by simp [hs])).1
    exact beginsWord_of_isDigit hne hdigit hc

end Digits

/-- A lexeme that has stayed as it was, or a number that has changed. -/
inductive Alike : Lexeme → Lexeme → Prop where
  | refl (l : Lexeme) : Alike l l
  | number {c d : Char} {v w : List Char} (hc : c.isDigit = true) (hd : d.isDigit = true) :
      Alike (.word (c :: v)) (.word (d :: w))

namespace Alike

variable {l l' : Lexeme}

theorem isWordOf_eq (h : Alike l l') {s : String}
    (hs : s.toList.head?.any Char.isDigit = false) : isWordOf s l = isWordOf s l' := by
  cases h with
  | refl => rfl
  | number hc hd => rw [isWordOf_of_isDigit hs hc, isWordOf_of_isDigit hs hd]

theorem isChar_eq (h : Alike l l') (c : Char) : isChar c l = isChar c l' := by
  cases h <;> rfl

theorem isDisallowed_eq (h : Alike l l') : isDisallowed l = isDisallowed l' := by
  cases h with
  | refl => rfl
  | number hc hd => rw [isDisallowed_of_isDigit hc, isDisallowed_of_isDigit hd]

end Alike

/-- The text with other digits behind some of its `$`. -/
inductive Renumbered : List Char → List Char → Prop where
  | nil : Renumbered [] []
  | char (c : Char) {as bs : List Char} (h : Renumbered as bs) : Renumbered (c :: as) (c :: bs)
  | number {ds es as bs : List Char} (hds : ds ≠ [] ∧ ∀ d ∈ ds, d.isDigit = true)
      (hes : es ≠ [] ∧ ∀ d ∈ es, d.isDigit = true) (h : Renumbered as bs) :
      Renumbered ('$' :: (ds ++ as)) ('$' :: (es ++ bs))

namespace Renumbered

variable {as bs : List Char}

/-- The lexemes stay alike, and the first one stays as it is. -/
theorem lex_alike (h : Renumbered as bs) :
    List.Forall₂ Alike (lex isWordChar as) (lex isWordChar bs) ∧
      (lex isWordChar as).head? = (lex isWordChar bs).head? := by
  induction h with
  | nil => exact ⟨.nil, rfl⟩
  | @char c as bs h ih =>
    obtain ⟨halike, hhead⟩ := ih
    by_cases hc : isWordChar c = true
    · rw [lex_cons_of_word hc, lex_cons_of_word hc]
      generalize lex isWordChar as = ls at halike hhead
      generalize lex isWordChar bs = ls' at halike hhead
      cases halike with
      | nil => exact ⟨.cons (.refl _) .nil, rfl⟩
      | @cons l l' rest rest' _ hrest =>
        obtain rfl := Option.some.inj hhead
        cases l with
        | word w => exact ⟨.cons (.refl _) hrest, rfl⟩
        | other d => exact ⟨.cons (.refl _) (.cons (.refl _) hrest), rfl⟩
    · rw [Bool.not_eq_true] at hc
      rw [lex_cons_of_not hc, lex_cons_of_not hc]
      exact ⟨.cons (.refl _) halike, rfl⟩
  | @number ds es as bs hds hes h ih =>
    obtain ⟨halike, hhead⟩ := ih
    have hdollar : isWordChar '$' = false := by decide
    have hwords : ∀ xs : List Char, (∀ d ∈ xs, d.isDigit = true) → ∀ d ∈ xs, isWordChar d = true :=
      fun xs hxs d hd => isWordChar_of_isDigit (hxs d hd)
    rw [lex_cons_of_not hdollar, lex_cons_of_not hdollar,
      lex_word_append hds.1 (hwords ds hds.2), lex_word_append hes.1 (hwords es hes.2)]
    refine ⟨.cons (.refl _) ?_, rfl⟩
    obtain ⟨c, cs, rfl⟩ := List.exists_cons_of_ne_nil hds.1
    obtain ⟨d, ds', rfl⟩ := List.exists_cons_of_ne_nil hes.1
    have hc := hds.2 c List.mem_cons_self
    have hd := hes.2 d List.mem_cons_self
    generalize lex isWordChar as = ls at halike hhead
    generalize lex isWordChar bs = ls' at halike hhead
    cases halike with
    | nil => exact .cons (.number hc hd) .nil
    | @cons l l' rest rest' _ hrest =>
      obtain rfl := Option.some.inj hhead
      cases l with
      | word w => exact .cons (.number hc hd) hrest
      | other e => exact .cons (.number hc hd) (.cons (.refl _) hrest)

theorem semicolon (h : Renumbered as bs) (has : ';' ∉ as) : ';' ∉ bs := by
  have hdigit : ∀ xs : List Char, (∀ d ∈ xs, d.isDigit = true) → ';' ∉ xs := fun xs hxs hmem =>
    absurd (hxs ';' hmem) (by decide)
  induction h with
  | nil => exact has
  | char c h ih =>
    rw [List.mem_cons, not_or] at has ⊢
    exact ⟨has.1, ih has.2⟩
  | number hds hes h ih =>
    rw [List.mem_cons, List.mem_append, not_or, not_or] at has ⊢
    exact ⟨has.1, hdigit _ hes.2, ih has.2.2⟩

theorem passes {text : String} (h : Renumbered text.toList bs)
    (hallowed : hasReservedToken text = false) : Passes (String.ofList bs) [] := by
  obtain ⟨halike, -⟩ := h.lex_alike
  simp only [hasReservedToken, hasForbiddenToken, hasDisallowed, Bool.or_eq_false_iff,
    List.contains_eq_mem, decide_eq_false_iff_not] at hallowed
  obtain ⟨⟨hsemicolon, hwords, hmysql⟩, hfrom⟩ := hallowed
  have hlexemes : lexemes (String.ofList bs) = lex isWordChar bs := by
    rw [lexemes, String.toList_ofList]
  have hmysqlWord := (reserved "mysql" (by simp)).1.2
  have hfromWord := (reserved "from" (by simp)).1.2
  apply passes_of_noReservedToken
  simp only [hasReservedToken, hasForbiddenToken, hasDisallowed, hlexemes, Bool.or_eq_false_iff,
    List.contains_eq_mem, decide_eq_false_iff_not, String.toList_ofList]
  refine ⟨⟨h.semicolon hsemicolon, ?_, ?_⟩, ?_⟩
  · rw [← any_congr (halike.imp fun _ _ hl => hl.isDisallowed_eq)]
    exact hwords
  · rw [← hmysql]
    refine (found_pair_congr (halike.imp fun _ _ hl => ?_)).symm
    exact ⟨hl.isWordOf_eq hmysqlWord, hl.isChar_eq '.'⟩
  · rw [← any_congr (halike.imp fun _ _ hl => hl.isWordOf_eq hfromWord)]
    exact hfrom

end Renumbered

/-! ### The texts of metrics -/

theorem digits_toString (n : ℕ) :
    (toString n).toList ≠ [] ∧ ∀ d ∈ (toString n).toList, d.isDigit = true := by
  rw [Nat.toString_eq_repr, Nat.toList_repr]
  exact ⟨Nat.toDigits_ne_nil, fun d hd => Nat.isDigit_of_mem_toDigits (by decide) (by decide) hd⟩

/-- The tokens as they are written with raised placeholders. -/
def raisedChars (k : ℕ) (tokens : List Token) : List Char :=
  (tokens.map (Token.rebase k)).flatMap Token.chars

theorem renumbered_flush (k : ℕ) {digits as bs : List Char}
    (hdigits : ∀ d ∈ digits, d.isDigit = true) (h : Renumbered as bs) :
    Renumbered ('$' :: (digits ++ as)) (raisedChars k (Token.flush digits) ++ bs) := by
  cases digits with
  | nil => exact .char '$' h
  | cons d ds =>
    have hraised : raisedChars k (Token.flush (d :: ds)) ++ bs =
        '$' :: ((toString ((d :: ds).foldl (fun n c => 10 * n + (c.toNat - 48)) 0 + k)).toList ++
          bs) := by
      simp [raisedChars, Token.flush, Token.rebase, Token.chars]
    rw [hraised]
    exact .number ⟨List.cons_ne_nil d ds, hdigits⟩ (digits_toString _) h

theorem renumbered_scan (k : ℕ) (cs : List Char) :
    Renumbered cs (raisedChars k (Token.scan none cs)) ∧
      ∀ digits : List Char, (∀ d ∈ digits, d.isDigit = true) →
        Renumbered ('$' :: (digits ++ cs)) (raisedChars k (Token.scan (some digits) cs)) := by
  induction cs with
  | nil =>
    refine ⟨.nil, fun digits hdigits => ?_⟩
    have hflush := renumbered_flush k hdigits .nil
    rwa [List.append_nil (raisedChars k (Token.flush digits))] at hflush
  | cons c cs ih =>
    obtain ⟨ihnone, ihsome⟩ := ih
    have hnone : Renumbered (c :: cs) (raisedChars k
        (if c = '$' then Token.scan (some []) cs else .char c :: Token.scan none cs)) := by
      by_cases hc : c = '$'
      · subst hc
        rw [if_pos rfl]
        exact ihsome [] (List.forall_mem_nil _)
      · rw [if_neg hc]
        exact .char c ihnone
    refine ⟨hnone, fun digits hdigits => ?_⟩
    by_cases hdigit : c.isDigit = true
    · have hmore := ihsome (digits ++ [c]) (List.forall_mem_append.2
        ⟨hdigits, List.forall_mem_singleton.2 hdigit⟩)
      rw [List.append_assoc, List.singleton_append] at hmore
      rw [Token.scan, if_pos hdigit]
      exact hmore
    · have hflush := renumbered_flush k hdigits hnone
      rw [Token.scan, if_neg hdigit]
      simpa only [raisedChars, List.map_append, List.flatMap_append] using hflush

theorem passes_metricTokens {expression : String} (h : hasReservedToken expression = false)
    (k : ℕ) :
    Passes (metricTokensText ((Token.ofText expression).map (Token.rebase k))) [] :=
  (renumbered_scan k expression.toList).1.passes h

end Forecast.Reporting
