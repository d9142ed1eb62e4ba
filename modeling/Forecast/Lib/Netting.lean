import Mathlib.Order.Lattice
import Mathlib.Data.List.Basic

/-!
# Netting of demand over periods

A planner nets the demand of one period after another against a running balance, and
orders a lot whenever the balance falls below the safety stock. It may count receipts in
another period than the one they are due in, and it may not create the orders of frozen
periods though it goes on as if it did. The balance that really follows is compared with
its own, in whatever arithmetic both are kept.
-/

namespace Netting

/-- The arithmetic, the receipts as the planner counts them and as they are due, the demand
and the rules. -/
structure Problem (ι K : Type*) where
  add : K → K → K
  sub : K → K → K
  safety : K
  lot : K → K
  counted : ι → K
  due : ι → K
  demand : ι → K
  frozen : ι → Bool

/-- What a recurrence says of one period. -/
structure Entry (ι K : Type*) where
  period : ι
  opening : K
  shortage : K
  closing : K

namespace Entry

variable {ι K : Type*}

def row (e : Entry ι K) : ι × K × K := (e.period, e.opening, e.shortage)

end Entry

namespace Problem

variable {ι K : Type*} [Zero K] [LinearOrder K] (P : Problem ι K)

def shortage (balance : K) : K := max 0 (P.sub P.safety balance)

def order (balance : K) : K := if 0 < P.shortage balance then P.lot (P.shortage balance) else 0

def counts (i : ι) (balance : K) : K := P.sub (P.add balance (P.counted i)) (P.demand i)

def leaves (i : ι) (balance : K) : K := P.sub (P.add balance (P.due i)) (P.demand i)

/-- A frozen period creates nothing. -/
def created (i : ι) (balance : K) : K := if P.frozen i then 0 else P.order (P.counts i balance)

/-- The planner's rows. -/
def planned : K → List ι → List (ι × K × K)
  | _, [] => []
  | balance, i :: is =>
    (i, balance, P.shortage (P.counts i balance)) ::
      planned (P.add (P.counts i balance) (P.order (P.counts i balance))) is

/-- What the planner creates. -/
def orders : K → List ι → List K
  | _, [] => []
  | balance, i :: is =>
    P.created i balance :: orders (P.add (P.counts i balance) (P.order (P.counts i balance))) is

/-- The recurrence, with what is due and what was created of each period. -/
def recurrence (given : ι → K) : K → List ι → List (Entry ι K)
  | _, [] => []
  | balance, i :: is =>
    ⟨i, balance, P.shortage (P.leaves i balance), P.add (P.leaves i balance) (given i)⟩ ::
      recurrence given (P.add (P.leaves i balance) (given i)) is

/-- Unless the period is frozen the lot for a shortage, as the arithmetic has it, makes up for it. -/
def Covers (i : ι) (balance : K) : Prop :=
  ¬P.frozen i → P.safety ≤ P.add (P.leaves i balance) (P.order (P.leaves i balance))

instance (i : ι) (balance : K) : Decidable (P.Covers i balance) :=
  inferInstanceAs (Decidable (_ → _))

/-- Every period before the last counts what is due and none of them freezes a shortage; the
last one is not misled by what it counts. -/
def Faithful : K → List ι → Prop
  | _, [] => True
  | balance, [i] =>
    P.shortage (P.counts i balance) = P.shortage (P.leaves i balance) ∧ P.Covers i balance
  | balance, i :: j :: is =>
    P.counted i = P.due i ∧ (P.frozen i → P.shortage (P.leaves i balance) = 0) ∧
      P.Covers i balance ∧ Faithful (P.add (P.leaves i balance) (P.created i balance)) (j :: is)

instance decidableFaithful : ∀ (balance : K) (is : List ι), Decidable (P.Faithful balance is)
  | _, [] => inferInstanceAs (Decidable True)
  | _, [_] => inferInstanceAs (Decidable (_ ∧ _))
  | balance, i :: j :: is =>
    have := decidableFaithful (P.add (P.leaves i balance) (P.created i balance)) (j :: is)
    inferInstanceAs (Decidable (_ ∧ _ ∧ _ ∧ P.Faithful _ (j :: is)))

variable {P}

theorem order_congr {a b : K} (h : P.shortage a = P.shortage b) : P.order a = P.order b := by
  rw [order, order, h]

theorem order_of_covered {balance : K} (h : P.shortage balance = 0) : P.order balance = 0 := by
  rw [order, h, if_neg (lt_irrefl 0)]

omit [Zero K] [LinearOrder K] in
theorem leaves_eq_counts {i : ι} (h : P.counted i = P.due i) (balance : K) :
    P.leaves i balance = P.counts i balance := by
  rw [leaves, counts, h]

theorem faithful_head {i : ι} {is : List ι} {balance : K} (h : P.Faithful balance (i :: is)) :
    P.shortage (P.counts i balance) = P.shortage (P.leaves i balance) ∧ P.Covers i balance := by
  cases is with
  | nil => exact h
  | cons j is => exact ⟨by rw [leaves_eq_counts h.1], h.2.2.1⟩

/-- A planner that is faithful goes on with the real balance. -/
theorem next_eq {i : ι} {balance : K} (hcounted : P.counted i = P.due i)
    (hfrozen : P.frozen i → P.shortage (P.leaves i balance) = 0) :
    P.add (P.leaves i balance) (P.created i balance) =
      P.add (P.counts i balance) (P.order (P.counts i balance)) := by
  rw [leaves_eq_counts hcounted] at hfrozen ⊢
  rw [created]
  by_cases h : P.frozen i
  · rw [if_pos h, order_of_covered (hfrozen h)]
  · rw [if_neg h]

theorem safety_le_closing {i : ι} {balance : K} (hfrozen : ¬P.frozen i)
    (hshortage : P.shortage (P.counts i balance) = P.shortage (P.leaves i balance))
    (hcovers : P.Covers i balance) :
    P.safety ≤ P.add (P.leaves i balance) (P.created i balance) := by
  rw [created, if_neg hfrozen, order_congr hshortage]
  exact hcovers hfrozen

/-- The rows of a faithful planner are those of the recurrence, and what is not frozen is
covered. -/
theorem planned_eq_recurrence {given : ι → K} {balance : K} {is : List ι}
    (hgiven : is.map given = P.orders balance is) (h : P.Faithful balance is) :
    P.planned balance is = (P.recurrence given balance is).map Entry.row ∧
      ∀ e ∈ P.recurrence given balance is, ¬P.frozen e.period → P.safety ≤ e.closing := by
  induction is generalizing balance with
  | nil => exact ⟨rfl, fun _ he => absurd he List.not_mem_nil⟩
  | cons i is ih =>
    obtain ⟨hi, his⟩ := List.cons.inj hgiven
    obtain ⟨hshortage, hcovers⟩ := faithful_head h
    have hrest : P.planned (P.add (P.counts i balance) (P.order (P.counts i balance))) is =
          (P.recurrence given (P.add (P.leaves i balance) (given i)) is).map Entry.row ∧
        ∀ e ∈ P.recurrence given (P.add (P.leaves i balance) (given i)) is,
          ¬P.frozen e.period → P.safety ≤ e.closing := by
      cases is with
      | nil => exact ⟨rfl, fun _ he => absurd he List.not_mem_nil⟩
      | cons j is =>
        obtain ⟨hcounted, hfrozen, -, hfaithful⟩ := h
        rw [next_eq hcounted hfrozen] at hfaithful
        rw [hi, next_eq hcounted hfrozen]
        exact ih his hfaithful
    rw [planned, recurrence, List.map_cons, hrest.1, hshortage]
    refine ⟨rfl, List.forall_mem_cons.2 ⟨fun hfrozen => ?_, hrest.2⟩⟩
    rw [hi]
    exact safety_le_closing hfrozen hshortage hcovers

end Problem

end Netting
