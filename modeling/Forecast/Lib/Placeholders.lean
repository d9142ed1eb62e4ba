import Mathlib.Data.List.Basic
import Mathlib.Data.List.Infix
import Mathlib.Order.Basic

/-!
# Numbered placeholders

A text is written while the values that it is run with are collected: a value is put at the end of
the list and the text gets `$n`, where `n` is the place of the value counted from one. A text that
was numbered from the start runs after another one when its numbers are raised by the length of
the other's list.
-/

namespace Placeholders

variable {ν : Type*}

/-- `$index`, and the value that it was written for. -/
structure Placeholder (ν : Type*) where
  index : ℕ
  builtFor : ν
deriving DecidableEq

/-- The value that `$n` is run with. -/
def valueAt (params : List ν) : ℕ → Option ν
  | 0 => none
  | n + 1 => params[n]?

def push (params : List ν) (value : ν) : Placeholder ν × List ν :=
  (⟨params.length + 1, value⟩, params ++ [value])

def Placeholder.rebase (k : ℕ) (p : Placeholder ν) : Placeholder ν :=
  { p with index := p.index + k }

/-- The highest number of a text. -/
def highest (ps : List (Placeholder ν)) : ℕ := (ps.map Placeholder.index).foldr max 0

/-- `ps` were written while the values grew from `before` to `params`. -/
structure Numbered (before : List ν) (ps : List (Placeholder ν)) (params : List ν) : Prop where
  grown : before <+: params
  bound : ∀ p ∈ ps, valueAt params p.index = some p.builtFor
  above : ∀ p ∈ ps, before.length < p.index
  covered : ∀ n, before.length < n → n ≤ params.length → ∃ p ∈ ps, p.index = n

variable {before params params' : List ν} {ps qs : List (Placeholder ν)} {n : ℕ} {v : ν}

theorem valueAt_eq_some : valueAt params n = some v ↔ 0 < n ∧ params[n - 1]? = some v := by
  cases n with
  | zero => simp [valueAt]
  | succ n => simp [valueAt]

theorem le_length_of_valueAt (h : valueAt params n = some v) : n ≤ params.length := by
  obtain ⟨hpos, hget⟩ := valueAt_eq_some.1 h
  obtain ⟨hlt, -⟩ := List.getElem?_eq_some_iff.1 hget
  omega

theorem valueAt_of_grown (hgrown : params <+: params') (h : valueAt params n = some v) :
    valueAt params' n = some v := by
  obtain ⟨hpos, hget⟩ := valueAt_eq_some.1 h
  obtain ⟨rest, rfl⟩ := hgrown
  have hlt : n - 1 < params.length := (List.getElem?_eq_some_iff.1 hget).1
  exact valueAt_eq_some.2 ⟨hpos, by rw [List.getElem?_append_left hlt, hget]⟩

/-- Behind `before`, the raised number stands for the same value. -/
theorem valueAt_rebase (hpos : 0 < n) :
    valueAt (before ++ params) (n + before.length) = valueAt params n := by
  cases n with
  | zero => omega
  | succ n =>
    have hsum : n + 1 + before.length = before.length + n + 1 := by omega
    rw [hsum]
    change (before ++ params)[before.length + n]? = params[n]?
    rw [List.getElem?_append_right (Nat.le_add_right _ _), Nat.add_sub_cancel_left]

theorem Numbered.nil : Numbered params [] params where
  grown := List.prefix_rfl
  bound := by simp
  above := by simp
  covered := by
    intro n hlt hle
    omega

theorem Numbered.push (params : List ν) (v : ν) :
    Numbered params [(push params v).1] (push params v).2 where
  grown := List.prefix_append params [v]
  bound := by
    intro p hp
    rw [List.mem_singleton.1 hp]
    simp [Placeholders.push, valueAt]
  above := by
    intro p hp
    rw [List.mem_singleton.1 hp]
    exact Nat.lt_succ_self _
  covered := by
    intro n hlt hle
    refine ⟨_, List.mem_singleton_self _, ?_⟩
    simp only [Placeholders.push, List.length_append, List.length_singleton] at hle ⊢
    omega

/-- What is written next goes on counting. -/
theorem Numbered.append (h : Numbered before ps params) (h' : Numbered params qs params') :
    Numbered before (ps ++ qs) params' where
  grown := h.grown.trans h'.grown
  bound := by
    intro p hp
    rcases List.mem_append.1 hp with hp | hp
    · exact valueAt_of_grown h'.grown (h.bound p hp)
    · exact h'.bound p hp
  above := by
    intro p hp
    have hle : before.length ≤ params.length := h.grown.length_le
    rcases List.mem_append.1 hp with hp | hp
    · exact h.above p hp
    · exact lt_of_le_of_lt hle (h'.above p hp)
  covered := by
    intro n hlt hle
    by_cases hfirst : n ≤ params.length
    · obtain ⟨p, hp, hindex⟩ := h.covered n hlt hfirst
      exact ⟨p, List.mem_append_left qs hp, hindex⟩
    · obtain ⟨p, hp, hindex⟩ := h'.covered n (by omega) hle
      exact ⟨p, List.mem_append_right ps hp, hindex⟩

/-- Only which placeholders a text has matters, not how often and where. -/
theorem Numbered.of_mem_iff (h : Numbered before ps params) (hmem : ∀ p, p ∈ qs ↔ p ∈ ps) :
    Numbered before qs params where
  grown := h.grown
  bound := fun p hp => h.bound p ((hmem p).1 hp)
  above := fun p hp => h.above p ((hmem p).1 hp)
  covered := by
    intro n hlt hle
    obtain ⟨p, hp, hindex⟩ := h.covered n hlt hle
    exact ⟨p, (hmem p).2 hp, hindex⟩

/-- A text numbered from the start runs behind any other one once its numbers are raised. -/
theorem Numbered.rebase (h : Numbered [] ps params) (before : List ν) :
    Numbered before (ps.map (Placeholder.rebase before.length)) (before ++ params) where
  grown := List.prefix_append before params
  bound := by
    intro q hq
    obtain ⟨p, hp, rfl⟩ := List.mem_map.1 hq
    exact (valueAt_rebase (h.above p hp)).trans (h.bound p hp)
  above := by
    intro q hq
    obtain ⟨p, hp, rfl⟩ := List.mem_map.1 hq
    have hpos : 0 < p.index := h.above p hp
    simp only [Placeholder.rebase]
    omega
  covered := by
    intro n hlt hle
    rw [List.length_append] at hle
    obtain ⟨p, hp, hindex⟩ := h.covered (n - before.length) (by simp only [List.length_nil]; omega)
      (by omega)
    refine ⟨p.rebase before.length, List.mem_map_of_mem hp, ?_⟩
    simp only [Placeholder.rebase]
    omega

theorem index_le_highest {p : Placeholder ν} (hp : p ∈ ps) : p.index ≤ highest ps := by
  induction ps with
  | nil => cases hp
  | cons q ps ih =>
    have hcons : highest (q :: ps) = max q.index (highest ps) := rfl
    rcases List.mem_cons.1 hp with rfl | hp
    · omega
    · have hle := ih hp
      omega

theorem highest_le (h : ∀ p ∈ ps, p.index ≤ n) : highest ps ≤ n := by
  induction ps with
  | nil => exact Nat.zero_le n
  | cons q ps ih =>
    have hcons : highest (q :: ps) = max q.index (highest ps) := rfl
    have hq := h q List.mem_cons_self
    have hps := ih fun p hp => h p (List.mem_cons_of_mem q hp)
    omega

/-- A text numbered from the start has as many values as its highest number says. -/
theorem Numbered.highest_eq (h : Numbered [] ps params) : highest ps = params.length := by
  apply le_antisymm
  · exact highest_le fun p hp => le_length_of_valueAt (h.bound p hp)
  · by_cases hzero : params.length = 0
    · omega
    · obtain ⟨p, hp, hindex⟩ := h.covered params.length
        (by simp only [List.length_nil]; omega) le_rfl
      have hle := index_le_highest hp
      omega

end Placeholders
