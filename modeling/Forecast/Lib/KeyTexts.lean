import Mathlib.Data.List.Basic
import Mathlib.Tactic.Common

/-!
# Texts made of marked parts

A list of pairs is written with a mark inside each pair and a separator between the
pairs, and may have a heading with a mark behind it. Parts that are free of both
signs can be read back, whatever the heading is.
-/

namespace KeyTexts

variable {α : Type*} {sep mark : α}

/-- The parts of a pair have neither sign in them, and the second is not empty. -/
structure Plain (sep mark : α) (p : List α × List α) : Prop where
  fst_sep : sep ∉ p.1
  fst_mark : mark ∉ p.1
  snd_sep : sep ∉ p.2
  snd_mark : mark ∉ p.2
  snd_ne_nil : p.2 ≠ []

def pairText (mark : α) (p : List α × List α) : List α := p.1 ++ mark :: p.2

def listed (sep mark : α) (ps : List (List α × List α)) : List α :=
  [sep].intercalate (ps.map (pairText mark))

@[simp] theorem listed_nil : listed sep mark [] = [] := rfl

theorem listed_singleton (p : List α × List α) : listed sep mark [p] = pairText mark p := by
  simp [listed]

theorem listed_cons_cons (p q : List α × List α) (ps : List (List α × List α)) :
    listed sep mark (p :: q :: ps) = pairText mark p ++ sep :: listed sep mark (q :: ps) := by
  simp [listed]

theorem pairText_ne_nil (p : List α × List α) : pairText mark p ≠ [] := by
  simp [pairText]

theorem listed_eq_nil {ps : List (List α × List α)} : listed sep mark ps = [] ↔ ps = [] := by
  cases ps with
  | nil => simp
  | cons p ps =>
    cases ps with
    | nil => simp [listed_singleton, pairText_ne_nil]
    | cons q ps => simp [listed_cons_cons, pairText_ne_nil]

/-- The mark of a pair is where its first part ends. -/
theorem pairText_injective {p q : List α × List α} (hp : Plain sep mark p)
    (h : pairText mark p = pairText mark q) : p = q := by
  obtain ⟨hfst, -, hsnd⟩ := (List.append_cons_inj_of_notMem hp.fst_mark hp.snd_mark).1 h
  exact Prod.ext hfst hsnd

theorem sep_not_mem_pairText {p : List α × List α} (hp : Plain sep mark p) (hne : sep ≠ mark) :
    sep ∉ pairText mark p := by
  intro h
  rcases List.mem_append.1 h with h | h
  · exact hp.fst_sep h
  · rcases List.mem_cons.1 h with h | h
    · exact hne h
    · exact hp.snd_sep h

theorem map_pairText_injective {ps qs : List (List α × List α)}
    (hps : ∀ p ∈ ps, Plain sep mark p) (h : ps.map (pairText mark) = qs.map (pairText mark)) :
    ps = qs := by
  induction ps generalizing qs with
  | nil => exact (List.map_eq_nil_iff.1 h.symm).symm
  | cons p ps ih =>
    cases qs with
    | nil => exact absurd h (by simp)
    | cons q qs =>
      rw [List.map_cons, List.map_cons] at h
      obtain ⟨hhead, htail⟩ := List.cons.inj h
      rw [pairText_injective (hps p List.mem_cons_self) hhead,
        ih (fun r hr => hps r (List.mem_cons_of_mem _ hr)) htail]

/-! ### Reading the text -/

variable [DecidableEq α]

/-- Between two marks stands a separator, and behind each mark something else. The state is
whether the pair's mark was seen, and if so whether nothing stood behind it yet. -/
def scans (sep mark : α) : Option Bool → List α → Bool
  | seen, [] => seen ≠ some true
  | seen, c :: cs =>
    if c = mark then seen = none && scans sep mark (some true) cs
    else if c = sep then seen ≠ some true && scans sep mark none cs
    else scans sep mark (seen.map fun _ => false) cs

example : scans 0 1 none [2, 1, 3] = true := by simp [scans]

theorem scans_free {seen : Option Bool} {xs ys : List α} (hsep : sep ∉ xs) (hmark : mark ∉ xs)
    (hne : xs ≠ []) :
    scans sep mark seen (xs ++ ys) = scans sep mark (seen.map fun _ => false) ys := by
  induction xs generalizing seen with
  | nil => exact absurd rfl hne
  | cons x xs ih =>
    have hx : x ≠ mark ∧ x ≠ sep :=
      ⟨fun h => hmark (h ▸ List.mem_cons_self), fun h => hsep (h ▸ List.mem_cons_self)⟩
    rw [List.cons_append, scans, if_neg hx.1, if_neg hx.2]
    by_cases hxs : xs = []
    · rw [hxs, List.nil_append]
    · rw [ih (fun h => hsep (List.mem_cons_of_mem _ h)) (fun h => hmark (List.mem_cons_of_mem _ h))
        hxs, Option.map_map]
      rfl

theorem scans_free_none {xs ys : List α} (hsep : sep ∉ xs) (hmark : mark ∉ xs) :
    scans sep mark none (xs ++ ys) = scans sep mark none ys := by
  by_cases hxs : xs = []
  · rw [hxs, List.nil_append]
  · rw [scans_free hsep hmark hxs, Option.map_none]

theorem scans_pairText {p : List α × List α} (hp : Plain sep mark p) (ys : List α) :
    scans sep mark none (pairText mark p ++ ys) = scans sep mark (some false) ys := by
  rw [pairText, List.append_assoc, scans_free_none hp.fst_sep hp.fst_mark, List.cons_append, scans,
    if_pos rfl, scans_free hp.snd_sep hp.snd_mark hp.snd_ne_nil]
  rfl

theorem scans_listed {ps : List (List α × List α)} (h : ∀ p ∈ ps, Plain sep mark p)
    (hne : sep ≠ mark) : scans sep mark none (listed sep mark ps) = true := by
  induction ps with
  | nil => rfl
  | cons p ps ih =>
    have hp := h p List.mem_cons_self
    cases ps with
    | nil =>
      rw [listed_singleton, ← List.append_nil (pairText mark p), scans_pairText hp]
      rfl
    | cons q ps =>
      have hlater : scans sep mark none (listed sep mark (q :: ps)) = true :=
        ih fun r hr => h r (List.mem_cons_of_mem _ hr)
      rw [listed_cons_cons, scans_pairText hp, scans, if_neg hne, if_pos rfl, hlater]
      rfl

/-- What is read well is read well from every place on. -/
theorem exists_scans_of_append {seen : Option Bool} {xs ys : List α}
    (h : scans sep mark seen (xs ++ ys) = true) : ∃ seen', scans sep mark seen' ys = true := by
  induction xs generalizing seen with
  | nil => exact ⟨seen, h⟩
  | cons x xs ih =>
    rw [List.cons_append, scans] at h
    split_ifs at h
    · exact ih (Bool.and_eq_true_iff.1 h).2
    · exact ih (Bool.and_eq_true_iff.1 h).2
    · exact ih h

theorem listed_ne_append {ps qs : List (List α × List α)} (hps : ∀ p ∈ ps, Plain sep mark p)
    (hqs : ∀ q ∈ qs, Plain sep mark q) (hne : sep ≠ mark) (xs : List α) :
    listed sep mark ps ≠ xs ++ mark :: listed sep mark qs := by
  intro h
  have hscan := scans_listed hps hne
  rw [h] at hscan
  obtain ⟨seen, hscan⟩ := exists_scans_of_append hscan
  rw [scans, if_pos rfl] at hscan
  have hlater := (Bool.and_eq_true_iff.1 hscan).2
  cases qs with
  | nil => exact absurd hlater (by simp [scans])
  | cons q qs =>
    -- behind the mark the next one comes without a separator
    have hq := hqs q List.mem_cons_self
    have hsplit : ∃ ys, listed sep mark (q :: qs) = q.1 ++ mark :: ys := by
      cases qs with
      | nil => exact ⟨q.2, listed_singleton q⟩
      | cons r qs =>
        rw [listed_cons_cons, pairText, List.append_assoc, List.cons_append]
        exact ⟨_, rfl⟩
    obtain ⟨ys, hys⟩ := hsplit
    rw [hys] at hlater
    by_cases hfst : q.1 = []
    · rw [hfst, List.nil_append, scans, if_pos rfl] at hlater
      exact absurd hlater (by simp)
    · rw [scans_free hq.fst_sep hq.fst_mark hfst, scans, if_pos rfl] at hlater
      exact absurd hlater (by simp)

/-! ### The parts are determined -/

theorem listed_injective {ps qs : List (List α × List α)} (hps : ∀ p ∈ ps, Plain sep mark p)
    (hqs : ∀ q ∈ qs, Plain sep mark q) (hne : sep ≠ mark)
    (h : listed sep mark ps = listed sep mark qs) : ps = qs := by
  by_cases hp : ps = []
  · subst hp
    exact (listed_eq_nil.1 (h.symm.trans listed_nil)).symm
  · have hq : qs ≠ [] := by
      rintro rfl
      exact hp (listed_eq_nil.1 (h.trans listed_nil))
    have hfree : ∀ {rs : List (List α × List α)}, (∀ r ∈ rs, Plain sep mark r) →
        ∀ text ∈ rs.map (pairText mark), sep ∉ text := by
      intro rs hrs text htext
      obtain ⟨r, hr, rfl⟩ := List.mem_map.1 htext
      exact sep_not_mem_pairText (hrs r hr) hne
    have hsplit := congrArg (List.splitOn sep) h
    rw [listed, listed, List.splitOn_intercalate sep (hfree hps) (by simpa using hp),
      List.splitOn_intercalate sep (hfree hqs) (by simpa using hq)] at hsplit
    exact map_pairText_injective hps hsplit

/-- The heading ends where the listed text begins, at the last mark that leaves one. -/
theorem headed_injective {hd hd' : List α} {ps qs : List (List α × List α)}
    (hps : ∀ p ∈ ps, Plain sep mark p) (hqs : ∀ q ∈ qs, Plain sep mark q) (hne : sep ≠ mark)
    (h : hd ++ mark :: listed sep mark ps = hd' ++ mark :: listed sep mark qs) :
    hd = hd' ∧ ps = qs := by
  rcases List.append_eq_append_iff.1 h with ⟨xs, rfl, hxs⟩ | ⟨xs, rfl, hxs⟩
  · cases xs with
    | nil =>
      rw [List.nil_append] at hxs
      exact ⟨(List.append_nil hd).symm, listed_injective hps hqs hne (List.cons.inj hxs).2⟩
    | cons x xs =>
      exact absurd (List.cons.inj hxs).2 (listed_ne_append hps hqs hne xs)
  · cases xs with
    | nil =>
      rw [List.nil_append] at hxs
      exact ⟨List.append_nil hd', (listed_injective hqs hps hne (List.cons.inj hxs).2).symm⟩
    | cons x xs =>
      exact absurd (List.cons.inj hxs).2 (listed_ne_append hqs hps hne xs)

end KeyTexts
