import Mathlib.Data.List.Infix

/-!
# Lexemes of a text

A text as its longest runs of word characters and the single characters between them. In a regular
expression a word between two boundaries is one such run, so a pattern of words, single characters
and white space is looked for among the lexemes.
-/

namespace Lexemes

inductive Lexeme where
  /-- A longest run of word characters. -/
  | word (chars : List Char)
  | other (c : Char)
deriving DecidableEq

/-! ### Reading -/

/-- A word character in front of a text makes its first run longer, or is a run of its own. -/
def extend (c : Char) : List Lexeme → List Lexeme
  | .word w :: rest => .word (c :: w) :: rest
  | rest => .word [c] :: rest

theorem extend_append (c : Char) {ls : List Lexeme} (hne : ls ≠ []) (ls' : List Lexeme) :
    extend c (ls ++ ls') = extend c ls ++ ls' := by
  cases ls with
  | nil => exact absurd rfl hne
  | cons l ls =>
    cases l with
    | word w => rfl
    | other d => rfl

theorem extend_of_head?_ne (c : Char) {ls : List Lexeme} (h : ∀ w, ls.head? ≠ some (.word w)) :
    extend c ls = .word [c] :: ls := by
  cases ls with
  | nil => rfl
  | cons l ls =>
    cases l with
    | word w => exact absurd rfl (h w)
    | other d => rfl

section Lex

variable (isWord : Char → Bool)

def lex : List Char → List Lexeme
  | [] => []
  | c :: cs => if isWord c then extend c (lex cs) else .other c :: lex cs

/-- No run goes across the seam of two texts. -/
def Apart (as bs : List Char) : Prop :=
  as.getLast?.any isWord = false ∨ bs.head?.any isWord = false

variable {isWord} {c : Char} {as bs cs w : List Char}

theorem lex_cons_of_word (h : isWord c = true) : lex isWord (c :: cs) = extend c (lex isWord cs) :=
  if_pos h

theorem lex_cons_of_not (h : isWord c = false) :
    lex isWord (c :: cs) = .other c :: lex isWord cs := by
  simp [lex, h]

theorem lex_ne_nil (h : cs ≠ []) : lex isWord cs ≠ [] := by
  cases cs with
  | nil => exact absurd rfl h
  | cons c cs =>
    unfold lex
    split_ifs
    · unfold extend
      split <;> exact List.cons_ne_nil _ _
    · exact List.cons_ne_nil _ _

/-- A text that does not begin with a word character does not begin with a run. -/
theorem head?_lex_ne_word (h : cs.head?.any isWord = false) (w : List Char) :
    (lex isWord cs).head? ≠ some (.word w) := by
  cases cs with
  | nil => exact Option.some_ne_none _ ∘ Eq.symm
  | cons c cs =>
    have hc : isWord c = false := by simpa using h
    rw [lex_cons_of_not hc]
    simp

theorem lex_append (h : Apart isWord as bs) :
    lex isWord (as ++ bs) = lex isWord as ++ lex isWord bs := by
  induction as with
  | nil => rfl
  | cons c as ih =>
    have htail : Apart isWord as bs := by
      rcases h with hlast | hhead
      · cases as with
        | nil => exact .inl rfl
        | cons d as => exact .inl (by simpa using hlast)
      · exact .inr hhead
    by_cases hc : isWord c = true
    · rw [List.cons_append, lex_cons_of_word hc, lex_cons_of_word hc, ih htail]
      by_cases hnil : as = []
      · subst hnil
        have hhead : bs.head?.any isWord = false := by
          rcases h with hlast | hhead
          · simp [hc] at hlast
          · exact hhead
        exact extend_of_head?_ne c (head?_lex_ne_word hhead)
      · exact extend_append c (lex_ne_nil hnil) _
    · rw [Bool.not_eq_true] at hc
      rw [List.cons_append, lex_cons_of_not hc, lex_cons_of_not hc, ih htail, List.cons_append]

theorem lex_word (hne : w ≠ []) (h : ∀ c ∈ w, isWord c = true) : lex isWord w = [.word w] := by
  induction w with
  | nil => exact absurd rfl hne
  | cons c w ih =>
    rw [lex_cons_of_word (h c List.mem_cons_self)]
    by_cases hnil : w = []
    · subst hnil
      rfl
    · rw [ih hnil fun d hd => h d (List.mem_cons_of_mem c hd)]
      rfl

/-- A run in front of a text makes its first run longer, or is a run of its own. -/
def prepend (w : List Char) : List Lexeme → List Lexeme
  | .word v :: rest => .word (w ++ v) :: rest
  | rest => .word w :: rest

theorem lex_word_append (hne : w ≠ []) (h : ∀ c ∈ w, isWord c = true) (cs : List Char) :
    lex isWord (w ++ cs) = prepend w (lex isWord cs) := by
  induction w with
  | nil => exact absurd rfl hne
  | cons c w ih =>
    rw [List.cons_append, lex_cons_of_word (h c List.mem_cons_self)]
    by_cases hnil : w = []
    · subst hnil
      rfl
    · rw [ih hnil fun d hd => h d (List.mem_cons_of_mem c hd)]
      unfold prepend
      split <;> rfl

/-- A text that does not end with a word character does not end with a run. -/
theorem getLast?_lex_ne_word (h : cs.getLast?.any isWord = false) (w : List Char) :
    (lex isWord cs).getLast? ≠ some (.word w) := by
  rcases List.eq_nil_or_concat cs with rfl | ⟨init, c, rfl⟩
  · simp [lex]
  · have hc : isWord c = false := by simpa using h
    have happart : Apart isWord init [c] := .inr (by simpa using hc)
    rw [List.concat_eq_append, lex_append happart, lex_cons_of_not hc]
    simp [lex]

end Lex

/-! ### Patterns -/

/-- A part of a pattern: one lexeme, or white space between two others. -/
inductive Item where
  | one (p : Lexeme → Bool)
  | spaces (atLeastOne : Bool)

section Match

variable (isSpace : Char → Bool)

def Lexeme.blank : Lexeme → Bool
  | .word _ => false
  | .other c => isSpace c

@[simp]
theorem Lexeme.blank_word (w : List Char) : Lexeme.blank isSpace (.word w) = false := rfl

@[simp]
theorem Lexeme.blank_other (c : Char) : Lexeme.blank isSpace (.other c) = isSpace c := rfl

/-- The lexemes begin with the pattern. -/
def matchesAt : List Item → List Lexeme → Bool
  | [], _ => true
  | .one _ :: _, [] => false
  | .one p :: items, l :: ls => p l && matchesAt items ls
  | .spaces atLeastOne :: items, ls =>
    (!atLeastOne || ls.head?.any (Lexeme.blank isSpace)) &&
      matchesAt items (ls.dropWhile (Lexeme.blank isSpace))

/-- The pattern is found somewhere. -/
def found (items : List Item) (ls : List Lexeme) : Bool :=
  ls.tails.any (matchesAt isSpace items)

variable {isSpace} {items : List Item} {ls ls' : List Lexeme}

theorem found_of_suffix (h : matchesAt isSpace items ls' = true) (hsuffix : ls' <:+ ls) :
    found isSpace items ls = true :=
  List.any_eq_true.2 ⟨ls', (List.mem_tails _ _).2 hsuffix, h⟩

theorem found_cons (l : Lexeme) :
    found isSpace items (l :: ls) =
      (matchesAt isSpace items (l :: ls) || found isSpace items ls) := by
  rw [found, List.tails, List.any_cons]
  rfl

/-- Two lexemes that do not meet at the seam are found on one of its sides. -/
theorem found_pair_append {p q : Lexeme → Bool} (h : found isSpace [.one p, .one q] ls = false)
    (h' : found isSpace [.one p, .one q] ls' = false)
    (hseam : ls.getLast?.any p = false ∨ ls'.head?.any q = false) :
    found isSpace [.one p, .one q] (ls ++ ls') = false := by
  induction ls with
  | nil => exact h'
  | cons l ls ih =>
    rw [found_cons, Bool.or_eq_false_iff] at h
    rw [List.cons_append, found_cons, Bool.or_eq_false_iff]
    cases ls with
    | nil =>
      refine ⟨?_, h'⟩
      cases ls' with
      | nil => simp [matchesAt]
      | cons l' ls' =>
        rcases hseam with hlast | hhead
        · simp [matchesAt, show p l = false by simpa using hlast]
        · simp [matchesAt, show q l' = false by simpa using hhead]
    | cons m ls =>
      have htail : (m :: ls).getLast?.any p = false ∨ ls'.head?.any q = false := by
        rcases hseam with hlast | hhead
        · exact .inl (by simpa using hlast)
        · exact .inr hhead
      refine ⟨?_, ih h.2 htail⟩
      simpa [matchesAt] using h.1

theorem any_congr {p : Lexeme → Bool} (h : List.Forall₂ (fun l l' => p l = p l') ls ls') :
    ls.any p = ls'.any p := by
  induction h with
  | nil => rfl
  | cons hhead _ ih => rw [List.any_cons, List.any_cons, hhead, ih]

/-- Lists that agree on two properties have the same pairs of them. -/
theorem found_pair_congr {p q : Lexeme → Bool}
    (h : List.Forall₂ (fun l l' => p l = p l' ∧ q l = q l') ls ls') :
    found isSpace [.one p, .one q] ls = found isSpace [.one p, .one q] ls' := by
  induction h with
  | nil => rfl
  | cons hhead htail ih =>
    rw [found_cons, found_cons, ih]
    congr 1
    cases htail with
    | nil => simp [matchesAt]
    | cons hnext _ => simp [matchesAt, hhead.1, hnext.2]

end Match

end Lexemes
