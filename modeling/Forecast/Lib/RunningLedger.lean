import Mathlib.Algebra.BigOperators.Group.List.Basic

/-!
# Ledgers that carry a running balance

Each entry records an amount and the balances before and after it. A ledger
runs from `b` to `m` when its entries chain, and then the balance moved by
the sum of the amounts.
-/

namespace RunningLedger

variable {M : Type*} [AddCommGroup M]

structure Entry (M : Type*) where
  amount : M
  before : M
  after : M

/-- The entry's own snapshot adds up. -/
def Entry.Balanced (e : Entry M) : Prop := e.after = e.before + e.amount

/-- The entries lead from balance `b` to balance `m`. -/
def Runs (b : M) : List (Entry M) → M → Prop
  | [], m => m = b
  | e :: es, m => e.before = b ∧ e.Balanced ∧ Runs e.after es m

theorem runs_append_entry {b m : M} {es : List (Entry M)} {e : Entry M} :
    Runs b (es ++ [e]) m ↔ ∃ m', Runs b es m' ∧ e.before = m' ∧ e.Balanced ∧ m = e.after := by
  induction es generalizing b with
  | nil => simp [Runs]
  | cons x es ih =>
    simp only [List.cons_append, Runs, ih]
    constructor
    · rintro ⟨hx, hbal, m', hes, he⟩
      exact ⟨m', ⟨hx, hbal, hes⟩, he⟩
    · rintro ⟨m', ⟨hx, hbal, hes⟩, he⟩
      exact ⟨hx, hbal, m', hes, he⟩

theorem Runs.eq_add_sum {b m : M} {es : List (Entry M)} (h : Runs b es m) :
    m = b + (es.map Entry.amount).sum := by
  induction es generalizing b with
  | nil => simpa [Runs] using h
  | cons e es ih =>
    obtain ⟨hbefore, hbal, hes⟩ := h
    rw [ih hes, hbal, hbefore, List.map_cons, List.sum_cons, add_assoc]

theorem Runs.balanced {b m : M} {es : List (Entry M)} (h : Runs b es m) :
    ∀ e ∈ es, e.Balanced := by
  induction es generalizing b with
  | nil => simp
  | cons e es ih =>
    obtain ⟨-, hbal, hes⟩ := h
    exact List.forall_mem_cons.2 ⟨hbal, ih hes⟩

theorem Runs.before_head {b m : M} {e : Entry M} {es : List (Entry M)}
    (h : Runs b (e :: es) m) : e.before = b := h.1

theorem Runs.after_getLast {b m : M} {es : List (Entry M)} (h : Runs b es m) {e : Entry M}
    (he : es.getLast? = some e) : e.after = m := by
  obtain ⟨init, rfl⟩ := List.getLast?_eq_some_iff.1 he
  obtain ⟨-, -, -, -, hm⟩ := runs_append_entry.1 h
  exact hm.symm

/-- Neighbouring entries meet. -/
theorem Runs.before_succ {b m : M} {es : List (Entry M)} (h : Runs b es m) {i : ℕ}
    {e e' : Entry M} (he : es[i]? = some e) (he' : es[i + 1]? = some e') :
    e'.before = e.after := by
  induction es generalizing b i with
  | nil => simp at he
  | cons x es ih =>
    obtain ⟨-, -, hes⟩ := h
    cases i with
    | succ i => exact ih hes (by simpa using he) (by simpa using he')
    | zero =>
      obtain rfl : x = e := by simpa using he
      cases es with
      | nil => simp at he'
      | cons y es =>
        obtain rfl : y = e' := by simpa using he'
        exact hes.before_head

end RunningLedger
