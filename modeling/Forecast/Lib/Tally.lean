import Mathlib.Algebra.Ring.Int.Defs
import Mathlib.Logic.Function.Basic
import Mathlib.Tactic.Common

/-!
# Tallies

A tally is a map from keys to numbers that is counted up and down. A key that would reach zero is
taken out, so that a map which `Counts` a family of natural numbers has no entries but those of
the keys with something to count.
-/

namespace Tally

variable {κ : Type*} [DecidableEq κ]

def count (m : κ → Option ℤ) (k : κ) : ℤ := (m k).getD 0

def increment (m : κ → Option ℤ) (k : κ) : κ → Option ℤ :=
  Function.update m k (some (count m k + 1))

def decrement (m : κ → Option ℤ) (k : κ) : κ → Option ℤ :=
  if count m k ≤ 1 then Function.update m k none
  else Function.update m k (some (count m k - 1))

def Counts (m : κ → Option ℤ) (n : κ → ℕ) : Prop :=
  ∀ k, m k = if n k = 0 then none else some (n k : ℤ)

variable {m : κ → Option ℤ} {n n' : κ → ℕ} {k : κ}

omit [DecidableEq κ] in
theorem counts_empty : Counts (fun _ : κ => none) fun _ => 0 := fun _ => rfl

namespace Counts

omit [DecidableEq κ]

theorem count_eq (h : Counts m n) (k : κ) : count m k = n k := by
  unfold count
  rw [h k]
  by_cases hk : n k = 0
  · rw [if_pos hk, hk]
    rfl
  · rw [if_neg hk]
    rfl

theorem pos (h : Counts m n) {c : ℤ} (hc : m k = some c) : 0 < c := by
  rw [h k] at hc
  by_cases hk : n k = 0
  · rw [if_pos hk] at hc
    cases hc
  · rw [if_neg hk] at hc
    obtain rfl := Option.some.inj hc
    omega

end Counts

theorem Counts.increment (h : Counts m n) (hn : ∀ j, n' j = n j + if j = k then 1 else 0) :
    Counts (increment m k) n' := by
  intro j
  unfold Tally.increment
  by_cases hj : j = k
  · subst hj
    have hnj : n' j = n j + 1 := by simpa using hn j
    rw [Function.update_self, h.count_eq, hnj, if_neg (Nat.succ_ne_zero _), Nat.cast_succ]
  · rw [Function.update_of_ne hj, h j, hn j, if_neg hj, Nat.add_zero]

theorem Counts.decrement (h : Counts m n) (hn : ∀ j, n j = n' j + if j = k then 1 else 0) :
    Counts (decrement m k) n' := by
  have hk : n k = n' k + 1 := by simpa using hn k
  intro j
  by_cases hj : j = k
  · subst hj
    unfold Tally.decrement
    rw [h.count_eq, hk]
    by_cases hzero : n' j = 0
    · rw [if_pos (by omega), Function.update_self, if_pos hzero]
    · rw [if_neg (by omega), Function.update_self, if_neg hzero, Nat.cast_succ,
        add_sub_cancel_right]
  · have hother : Tally.decrement m k j = m j := by
      unfold Tally.decrement
      split_ifs <;> exact Function.update_of_ne hj _ _
    have hnj : n j = n' j := by simpa [hj] using hn j
    rw [hother, h j, hnj]

end Tally
