import Mathlib.Data.List.Basic
import Mathlib.Tactic.Common

/-!
# Redirected references

A merge of one row into another redirects every reference from the first to the
second. `follow` is what a reference becomes by a list of merges, in order. When
no target is ever redirected itself, a reference moves at most once.
-/

namespace Redirection

variable {ι : Type*} [DecidableEq ι]

def redirect (m : ι × ι) (x : ι) : ι := if x = m.1 then m.2 else x

def follow (ms : List (ι × ι)) (x : ι) : ι := ms.foldl (fun y m => redirect m y) x

@[simp] theorem follow_nil (x : ι) : follow [] x = x := rfl

@[simp] theorem follow_cons (m : ι × ι) (ms : List (ι × ι)) (x : ι) :
    follow (m :: ms) x = follow ms (redirect m x) := rfl

theorem redirect_self (m : ι × ι) : redirect m m.1 = m.2 := if_pos rfl

theorem redirect_of_ne {m : ι × ι} {x : ι} (h : x ≠ m.1) : redirect m x = x := if_neg h

theorem follow_eq_self {ms : List (ι × ι)} {x : ι} (h : ∀ m ∈ ms, m.1 ≠ x) : follow ms x = x := by
  induction ms with
  | nil => rfl
  | cons m ms ih =>
    have hm : x ≠ m.1 := (h m List.mem_cons_self).symm
    rw [follow_cons, redirect_of_ne hm]
    exact ih fun n hn => h n (List.mem_cons_of_mem _ hn)

/-- Where no target is a source, a reference stays or moves once. -/
theorem follow_eq_or {ms : List (ι × ι)} (apart : ∀ m ∈ ms, ∀ n ∈ ms, n.1 ≠ m.2) (x : ι) :
    follow ms x = x ∨ ∃ m ∈ ms, m.1 = x ∧ follow ms x = m.2 := by
  induction ms with
  | nil => exact Or.inl rfl
  | cons m ms ih =>
    by_cases hx : x = m.1
    · have hstay : follow ms m.2 = m.2 :=
        follow_eq_self fun n hn => apart m List.mem_cons_self n (List.mem_cons_of_mem _ hn)
      refine Or.inr ⟨m, List.mem_cons_self, hx.symm, ?_⟩
      rw [follow_cons, hx, redirect_self, hstay]
    · rw [follow_cons, redirect_of_ne hx]
      obtain hstay | ⟨n, hn, hsource, htarget⟩ := ih fun a ha b hb =>
        apart a (List.mem_cons_of_mem _ ha) b (List.mem_cons_of_mem _ hb)
      · exact Or.inl hstay
      · exact Or.inr ⟨n, List.mem_cons_of_mem _ hn, hsource, htarget⟩

/-- What no merge leads to is never reached. -/
theorem follow_ne {ms : List (ι × ι)} {a x : ι} (hx : x ≠ a) (h : ∀ m ∈ ms, m.2 ≠ a) :
    follow ms x ≠ a := by
  induction ms generalizing x with
  | nil => exact hx
  | cons m ms ih =>
    rw [follow_cons]
    apply ih
    · unfold redirect
      split_ifs
      · exact h m List.mem_cons_self
      · exact hx
    · exact fun n hn => h n (List.mem_cons_of_mem _ hn)

end Redirection
