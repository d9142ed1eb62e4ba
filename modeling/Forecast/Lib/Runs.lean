import Mathlib.Algebra.Order.Group.Abs
import Mathlib.Data.List.Basic
import Mathlib.Tactic.Abel
import Mathlib.Tactic.Common

/-!
# Runs of a state machine and what holds along them

A machine is a function `next` from a state and an action to a state; an action
that is not enabled leaves the state as it is. `Always P` says that `P` holds
of every state and the action taken in it, and `sumAlong w` adds up what every
action weighs in its state.
-/

namespace Runs

variable {S A : Type*} (next : S → A → S)

def run (s : S) (as : List A) : S := as.foldl next s

def Always (P : S → A → Prop) : S → List A → Prop
  | _, [] => True
  | s, a :: as => P s a ∧ Always P (next s a) as

/-- The state before action number `k`. -/
def stateAt (s : S) (as : List A) (k : ℕ) : S := run next s (as.take k)

@[simp] theorem run_nil (s : S) : run next s [] = s := rfl

@[simp] theorem run_cons (s : S) (a : A) (as : List A) :
    run next s (a :: as) = run next (next s a) as := rfl

theorem run_append (s : S) (as bs : List A) :
    run next s (as ++ bs) = run next (run next s as) bs := List.foldl_append

@[simp] theorem stateAt_zero (s : S) (as : List A) : stateAt next s as 0 = s := rfl

theorem stateAt_length (s : S) (as : List A) : stateAt next s as as.length = run next s as := by
  rw [stateAt, List.take_length]

theorem stateAt_succ (s : S) {as : List A} {k : ℕ} {a : A} (h : as[k]? = some a) :
    stateAt next s as (k + 1) = next (stateAt next s as k) a := by
  rw [stateAt, List.take_add_one, h, run_append]
  rfl

instance decidableAlways (P : S → A → Prop) [∀ s a, Decidable (P s a)] :
    (s : S) → (as : List A) → Decidable (Always next P s as)
  | _, [] => inferInstanceAs (Decidable True)
  | s, a :: as =>
    have := decidableAlways P (next s a) as
    inferInstanceAs (Decidable (P s a ∧ Always next P (next s a) as))

variable {next} {P Q : S → A → Prop}

theorem always_append {s : S} {as bs : List A} :
    Always next P s (as ++ bs) ↔ Always next P s as ∧ Always next P (run next s as) bs := by
  induction as generalizing s with
  | nil => simp [Always]
  | cons a as ih => simp [Always, ih, and_assoc]

theorem Always.take {s : S} {as : List A} (h : Always next P s as) (k : ℕ) :
    Always next P s (as.take k) := by
  rw [← List.take_append_drop k as, always_append] at h
  exact h.1

theorem Always.at {s : S} {as : List A} (h : Always next P s as) {k : ℕ} {a : A}
    (ha : as[k]? = some a) : P (stateAt next s as k) a := by
  induction as generalizing s k with
  | nil => simp at ha
  | cons b as ih =>
    cases k with
    | zero =>
      obtain rfl : b = a := by simpa using ha
      exact h.1
    | succ k => exact ih h.2 (by simpa using ha)

theorem always_iff {s : S} {as : List A} :
    Always next P s as ↔ ∀ k a, as[k]? = some a → P (stateAt next s as k) a := by
  refine ⟨fun h k a ha => h.at ha, fun h => ?_⟩
  induction as generalizing s with
  | nil => trivial
  | cons a as ih => exact ⟨h 0 a rfl, ih fun k b hb => h (k + 1) b (by simpa using hb)⟩

variable {I : S → Prop}

/-- An invariant of every permitted step holds at the end of the run. -/
theorem Always.invariant (hstep : ∀ s a, I s → P s a → I (next s a)) {s : S} {as : List A}
    (hs : I s) (h : Always next P s as) : I (run next s as) := by
  induction as generalizing s with
  | nil => exact hs
  | cons a as ih => exact ih (hstep s a hs h.1) h.2

theorem Always.invariant_at (hstep : ∀ s a, I s → P s a → I (next s a)) {s : S} {as : List A}
    (hs : I s) (h : Always next P s as) (k : ℕ) : I (stateAt next s as k) :=
  Always.invariant hstep hs (h.take k)

/-- What a step keeps exactly where it is permitted holds all along the permitted runs alone. -/
theorem forall_stateAt_iff_always {s : S} {as : List A}
    (hstep : ∀ s, ∀ a ∈ as, I s → (I (next s a) ↔ P s a)) (hs : I s) :
    (∀ k, I (stateAt next s as k)) ↔ Always next P s as := by
  induction as generalizing s with
  | nil => exact ⟨fun _ => trivial, fun _ k => by rwa [stateAt, List.take_nil]⟩
  | cons a as ih =>
    have hfirst := hstep s a List.mem_cons_self hs
    have hrest : I (next s a) →
        ((∀ k, I (stateAt next (next s a) as k)) ↔ Always next P (next s a) as) :=
      ih fun s b hb => hstep s b (List.mem_cons_of_mem a hb)
    constructor
    · intro h
      exact ⟨hfirst.1 (h 1), (hrest (h 1)).1 fun k => h (k + 1)⟩
    · intro h k
      have hnext := hfirst.2 h.1
      cases k with
      | zero => exact hs
      | succ k => exact (hrest hnext).2 h.2 k

/-- An invariant of every step holds at the end of every run. -/
theorem run_invariant (hstep : ∀ s a, I s → I (next s a)) {s : S} (hs : I s) (as : List A) :
    I (run next s as) := by
  induction as generalizing s with
  | nil => exact hs
  | cons a as ih => exact ih (hstep s a hs)

/-- What no step undoes still holds later in the run. -/
theorem stateAt_stable (hstep : ∀ s a, I s → I (next s a)) {s : S} {as : List A} {j k : ℕ}
    (hjk : j ≤ k) (hj : I (stateAt next s as j)) : I (stateAt next s as k) := by
  have hsplit : as.take k = as.take j ++ (as.take k).drop j := by
    conv_lhs => rw [← List.take_append_drop j (as.take k), List.take_take, Nat.min_eq_left hjk]
  rw [stateAt, hsplit, run_append]
  exact run_invariant hstep hj _

/-- What a run makes true, one of its steps makes true. -/
theorem exists_step_of_run {s : S} {as : List A} (hs : ¬I s) (h : I (run next s as)) :
    ∃ k a, as[k]? = some a ∧ ¬I (stateAt next s as k) ∧ I (next (stateAt next s as k) a) := by
  induction as generalizing s with
  | nil => exact absurd h hs
  | cons a as ih =>
    by_cases hnext : I (next s a)
    · exact ⟨0, a, rfl, hs, hnext⟩
    · obtain ⟨k, b, hb, hbefore, hafter⟩ := ih hnext h
      exact ⟨k + 1, b, hb, hbefore, hafter⟩

/-- A relation that every permitted step keeps to relates any two states of the run. -/
theorem Always.related {R : S → S → Prop} (hrefl : ∀ s, R s s)
    (htrans : ∀ {a b c}, R a b → R b c → R a c) (hstep : ∀ s a, P s a → R s (next s a)) {s : S}
    {as : List A} (h : Always next P s as) {j k : ℕ} (hjk : j ≤ k) :
    R (stateAt next s as j) (stateAt next s as k) := by
  obtain ⟨d, rfl⟩ := Nat.exists_eq_add_of_le hjk
  clear hjk
  induction d with
  | zero => exact hrefl _
  | succ d ih =>
    cases ha : as[j + d]? with
    | none =>
      have hend := List.getElem?_eq_none_iff.1 ha
      have hsame : stateAt next s as (j + (d + 1)) = stateAt next s as (j + d) := by
        unfold stateAt
        rw [List.take_of_length_le hend, List.take_of_length_le (by omega)]
      rw [hsame]
      exact ih
    | some a =>
      have hnext : stateAt next s as (j + (d + 1)) = next (stateAt next s as (j + d)) a :=
        stateAt_succ next s ha
      rw [hnext]
      exact htrans ih (hstep _ a (h.at ha))

/-! ### Totals of a run -/

section Total

variable {M : Type*} [AddMonoid M]

variable (next) in
def sumAlong (w : S → A → M) : S → List A → M
  | _, [] => 0
  | s, a :: as => w s a + sumAlong w (next s a) as

/-- A measure that every permitted step moves by the weight of its action. -/
theorem Always.sumAlong_eq {w : S → A → M} {g : S → M}
    (hstep : ∀ s a, P s a → g (next s a) = g s + w s a) {s : S} {as : List A}
    (h : Always next P s as) : g (run next s as) = g s + sumAlong next w s as := by
  induction as generalizing s with
  | nil => exact (add_zero _).symm
  | cons a as ih => rw [run_cons, ih h.2, hstep s a h.1, sumAlong, add_assoc]

end Total

/-- A measure that every permitted step moves by the weight of its action up to an error. -/
theorem Always.abs_sub_sumAlong_le {M : Type*} [AddCommGroup M] [LinearOrder M]
    [IsOrderedAddMonoid M] {w e : S → A → M} {g : S → M}
    (hstep : ∀ s a, P s a → |g (next s a) - (g s + w s a)| ≤ e s a) {s : S} {as : List A}
    (h : Always next P s as) :
    |g (run next s as) - (g s + sumAlong next w s as)| ≤ sumAlong next e s as := by
  induction as generalizing s with
  | nil => simp [sumAlong]
  | cons a as ih =>
    have hsplit : g (run next s (a :: as)) - (g s + sumAlong next w s (a :: as)) =
        g (next s a) - (g s + w s a) +
          (g (run next (next s a) as) - (g (next s a) + sumAlong next w (next s a) as)) := by
      rw [run_cons, sumAlong]
      abel
    rw [hsplit, sumAlong]
    exact (abs_add_le _ _).trans (add_le_add (hstep s a h.1) (ih h.2))

end Runs
